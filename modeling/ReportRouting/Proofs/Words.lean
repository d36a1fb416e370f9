import ReportRouting.Proofs.Comments
import ReportRouting.Proofs.Trimming

/-!
Words in a row, with a comma and a blank between them.

Recipients and tags are both written so. A word has no blank in it, so the only blanks of a row are
those between its words, and a comment can begin only where a word begins with a `#`.
-/

namespace ReportRouting

open Text

structure IsWord (w : List Char) : Prop where
  ne_nil : w ≠ []
  isBlank_eq_false : ∀ c ∈ w, isBlank c = false

/-- The words with a comma and a blank between them. -/
def spaced (words : List (List Char)) : List Char :=
  [',', ' '].intercalate words

@[simp] theorem spaced_nil : spaced [] = [] := rfl

@[simp] theorem spaced_singleton (w : List Char) : spaced [w] = w :=
  List.intercalate_singleton

@[simp] theorem spaced_cons_cons (u v : List Char) (words : List (List Char)) :
    spaced (u :: v :: words) = u ++ ',' :: ' ' :: spaced (v :: words) := by
  simp [spaced]

theorem spaced_append {u v : List (List Char)} (hu : u ≠ []) (hv : v ≠ []) :
    spaced (u ++ v) = spaced u ++ ',' :: ' ' :: spaced v := by
  induction u with
  | nil => exact absurd rfl hu
  | cons w u ih =>
      cases u with
      | nil =>
          obtain ⟨w', v, rfl⟩ := List.exists_cons_of_ne_nil hv
          simp
      | cons w' u =>
          have htail := ih (List.cons_ne_nil w' u)
          simp only [List.cons_append] at htail
          simp [htail]

theorem mem_spaced {words : List (List Char)} {c : Char} (h : c ∈ spaced words) :
    c = ',' ∨ c = ' ' ∨ ∃ w ∈ words, c ∈ w := by
  induction words with
  | nil => cases h
  | cons u words ih =>
      cases words with
      | nil =>
          rw [spaced_singleton] at h
          exact .inr (.inr ⟨u, List.mem_singleton_self u, h⟩)
      | cons v words =>
          rw [spaced_cons_cons] at h
          simp only [List.mem_append, List.mem_cons] at h
          rcases h with h | h | h | h
          · exact .inr (.inr ⟨u, List.mem_cons_self, h⟩)
          · exact .inl h
          · exact .inr (.inl h)
          · rcases ih h with h | h | ⟨w, hw, hc⟩
            · exact .inl h
            · exact .inr (.inl h)
            · exact .inr (.inr ⟨w, List.mem_cons_of_mem u hw, hc⟩)

/-! ### The ends of a row -/

theorem head?_spaced_cons {w : List Char} (hw : w ≠ []) (words : List (List Char)) :
    (spaced (w :: words)).head? = w.head? := by
  cases words with
  | nil => rw [spaced_singleton]
  | cons v words => rw [spaced_cons_cons, List.head?_append_of_ne_nil _ hw]

theorem spaced_ne_nil {words : List (List Char)} (hne : words ≠ []) (h : ∀ w ∈ words, IsWord w) :
    spaced words ≠ [] := by
  obtain ⟨w, words, rfl⟩ := List.exists_cons_of_ne_nil hne
  have hw := (h w List.mem_cons_self).ne_nil
  intro hnil
  have hhead := head?_spaced_cons hw words
  rw [hnil, List.head?_nil, eq_comm, List.head?_eq_none_iff] at hhead
  exact hw hhead

theorem isBlank_head?_spaced {words : List (List Char)} (h : ∀ w ∈ words, IsWord w) :
    ∀ c ∈ (spaced words).head?, isBlank c = false := by
  cases words with
  | nil => nofun
  | cons w words =>
      have hw := h w List.mem_cons_self
      rw [head?_spaced_cons hw.ne_nil]
      exact fun c hc => hw.isBlank_eq_false c (List.mem_of_head? hc)

theorem isBlank_getLast?_spaced {words : List (List Char)} (h : ∀ w ∈ words, IsWord w) :
    ∀ c ∈ (spaced words).getLast?, isBlank c = false := by
  induction words with
  | nil => nofun
  | cons u words ih =>
      cases words with
      | nil =>
          have hu := h u List.mem_cons_self
          rw [spaced_singleton]
          exact fun c hc => hu.isBlank_eq_false c (List.mem_of_getLast? hc)
      | cons v words =>
          have htail := (List.forall_mem_cons.1 h).2
          have hne := spaced_ne_nil (List.cons_ne_nil v words) htail
          rw [spaced_cons_cons, List.getLast?_append_of_ne_nil _ (by simp)]
          rw [List.getLast?_cons_of_ne_nil (by simp), List.getLast?_cons_of_ne_nil hne]
          exact ih htail

/-! ### Splitting at the commas -/

theorem cons_spaced {words : List (List Char)} (hne : words ≠ []) :
    ' ' :: spaced words = [','].intercalate (words.map (' ' :: ·)) := by
  induction words with
  | nil => exact absurd rfl hne
  | cons u words ih =>
      cases words with
      | nil => simp
      | cons v words =>
          rw [spaced_cons_cons, ih (List.cons_ne_nil v words)]
          simp

theorem map_trim_splitOn_cons_spaced {words : List (List Char)} (hne : words ≠ [])
    (h : ∀ w ∈ words, IsWord w ∧ ',' ∉ w) :
    ((' ' :: spaced words).splitOn ',').map trim = words := by
  have hcomma : ∀ piece ∈ words.map (' ' :: ·), ',' ∉ piece := by
    simpa using fun w hw => (h w hw).2
  have htrim : ∀ w ∈ words, trim (' ' :: w) = w := by
    intro w hw
    have hblank := (h w hw).1.isBlank_eq_false
    have hspace : trim ([' '] ++ w) = trim w :=
      trim_append_left (by simpa [AllBlank] using show isBlank ' ' = true from rfl) w
    rw [← List.singleton_append, hspace]
    exact trim_eq_self (fun c hc => hblank c (List.mem_of_head? hc))
      (fun c hc => hblank c (List.mem_of_getLast? hc))
  rw [cons_spaced hne, List.splitOn_intercalate ',' hcomma (by simpa using hne), List.map_map]
  calc words.map (trim ∘ (' ' :: ·))
      = words.map id := List.map_congr_left htrim
    _ = words := List.map_id words

/-! ### Comments in a row -/

theorem cutComment_of_isWord {afterBlank : Bool} {w : List Char} (hw : IsWord w)
    (hhash : w.head? ≠ some '#') : cutComment afterBlank w = w := by
  have hblank := hw.isBlank_eq_false
  rw [cutComment_eq_of_head?_ne hhash]
  clear hw hhash
  induction w with
  | nil => rfl
  | cons c w ih =>
      obtain ⟨hc, hw⟩ := List.forall_mem_cons.1 hblank
      rw [cutComment_cons, if_neg (fun h => Bool.false_ne_true h.2), hc, ih hw]

/-- No word begins with a `#`, so nothing in the row is a comment. -/
theorem cutComment_spaced {afterBlank : Bool} {words : List (List Char)}
    (h : ∀ w ∈ words, IsWord w ∧ w.head? ≠ some '#') :
    cutComment afterBlank (spaced words) = spaced words := by
  induction words generalizing afterBlank with
  | nil => rfl
  | cons u words ih =>
      obtain ⟨hu, htail⟩ := List.forall_mem_cons.1 h
      have hcut : cutComment afterBlank u = u := cutComment_of_isWord hu.1 hu.2
      cases words with
      | nil => rw [spaced_singleton, hcut]
      | cons v words =>
          rw [spaced_cons_cons, cutComment_append _ hcut, cutComment_cons_of_ne (by decide),
            cutComment_cons_of_ne (by decide), ih htail]

end ReportRouting
