import Mathlib.Data.List.DropRight
import Mathlib.Data.List.TakeWhile
import ReportRouting.Text.Blank

/-!
What trimming keeps of a text, and what it does to the pieces of one.

Blanks around a text are no matter to trimming, so the pieces of a text are the same after
trimming whether or not the text was trimmed before it was split.
-/

namespace ReportRouting.Text

def AllBlank (s : List Char) : Prop :=
  ∀ c ∈ s, isBlank c = true

@[simp] theorem allBlank_nil : AllBlank [] :=
  fun _ hc => absurd hc List.not_mem_nil

theorem isBlankText_iff {s : String} : isBlankText s = true ↔ AllBlank s.toList :=
  List.all_eq_true

theorem trimStart_append {a : List Char} (ha : AllBlank a) (s : List Char) :
    trimStart (a ++ s) = trimStart s :=
  List.dropWhile_append_of_pos ha

theorem trimEnd_append {b : List Char} (hb : AllBlank b) (s : List Char) :
    trimEnd (s ++ b) = trimEnd s := by
  rw [trimEnd, List.reverse_append, List.dropWhile_append_of_pos, trimEnd]
  exact fun c hc => hb c (List.mem_reverse.1 hc)

theorem trim_append_left {a : List Char} (ha : AllBlank a) (s : List Char) :
    trim (a ++ s) = trim s := by
  rw [trim, trimStart_append ha, trim]

theorem trim_append_right {b : List Char} (hb : AllBlank b) (s : List Char) :
    trim (s ++ b) = trim s := by
  rw [trim, trimStart, List.dropWhile_append]
  split
  case isTrue hnil =>
    -- The text is blank as well, and nothing is left on either side.
    have hb' : b.dropWhile isBlank = [] := List.dropWhile_eq_nil_iff.2 hb
    rw [hb', trim, trimStart, List.isEmpty_iff.1 hnil]
  case isFalse => exact trimEnd_append hb _

/-- Trimming takes blanks away at both ends. -/
theorem exists_eq_append_trim (s : List Char) :
    ∃ a b, AllBlank a ∧ AllBlank b ∧ s = a ++ trim s ++ b := by
  refine ⟨s.takeWhile isBlank, (trimStart s).rtakeWhile isBlank, fun c hc => ?_, fun c hc => ?_, ?_⟩
  · exact List.mem_takeWhile_imp hc
  · exact List.mem_rtakeWhile_imp hc
  · have hend : trim s ++ (trimStart s).rtakeWhile isBlank = trimStart s :=
      List.rdropWhile_append_rtakeWhile
    rw [List.append_assoc, hend, trimStart, List.takeWhile_append_dropWhile]

theorem trim_eq_nil_iff {s : List Char} : trim s = [] ↔ AllBlank s := by
  constructor
  · intro h
    obtain ⟨a, b, ha, hb, hs⟩ := exists_eq_append_trim s
    rw [h, List.append_nil] at hs
    rw [hs]
    exact fun c hc => (List.mem_append.1 hc).elim (ha c) (hb c)
  · intro h
    rw [← List.append_nil s, trim_append_left h, trim_nil]

/-- The first character that stays is the first one that is not blank. -/
theorem head?_trim (s : List Char) : (trim s).head? = s.find? (!isBlank ·) := by
  rw [List.find?_not_eq_head?_dropWhile]
  obtain ⟨b, hb⟩ := List.rdropWhile_prefix isBlank (trimStart s)
  change trim s ++ b = trimStart s at hb
  cases htrim : trim s with
  | nil =>
      have hs := trim_eq_nil_iff.1 htrim
      rw [List.dropWhile_eq_nil_iff.2 hs]
  | cons c rest =>
      rw [htrim] at hb
      rw [← trimStart, ← hb]
      rfl

/-- A text that neither begins nor ends with a blank is trimmed. -/
theorem trim_eq_self {s : List Char} (hhead : ∀ c ∈ s.head?, isBlank c = false)
    (hlast : ∀ c ∈ s.getLast?, isBlank c = false) : trim s = s := by
  have hstart : trimStart s = s := by
    cases s with
    | nil => rfl
    | cons c rest => exact List.dropWhile_cons_of_neg (by simp [hhead c rfl])
  rw [trim, hstart]
  refine List.rdropWhile_eq_self_iff.2 fun hs => ?_
  rw [hlast _ (List.getLast?_eq_getLast_of_ne_nil hs)]
  exact Bool.false_ne_true

/-- Blanks around a text go with the blanks around its first and its last piece. -/
theorem map_trim_splitOn_append {sep : Char} (hsep : isBlank sep = false) {a b : List Char}
    (ha : AllBlank a) (hb : AllBlank b) (s : List Char) :
    ((a ++ s ++ b).splitOn sep).map trim = (s.splitOn sep).map trim := by
  by_cases hmem : sep ∈ s
  · obtain ⟨u, v, hs⟩ := List.append_of_mem hmem
    have hu := map_trim_splitOn_append hsep ha allBlank_nil u
    have hv := map_trim_splitOn_append hsep allBlank_nil hb v
    rw [List.append_nil] at hu
    rw [List.nil_append] at hv
    have hpad : a ++ s ++ b = (a ++ u) ++ sep :: (v ++ b) := by simp [hs]
    rw [hpad, hs, List.splitOn_append_cons_self, List.splitOn_append_cons_self, List.map_append,
      List.map_append, hu, hv]
  · have hpad : sep ∉ a ++ s ++ b := by
      intro h
      rcases List.mem_append.1 h with h | h
      · rcases List.mem_append.1 h with h | h
        · rw [ha sep h] at hsep
          cases hsep
        · exact hmem h
      · rw [hb sep h] at hsep
        cases hsep
    rw [List.splitOn_eq_singleton hpad, List.splitOn_eq_singleton hmem, List.map_singleton,
      List.map_singleton, trim_append_right hb, trim_append_left ha]
termination_by s.length
decreasing_by
  all_goals simp only [hs, List.length_append, List.length_cons]; omega

theorem map_trim_splitOn_trim {sep : Char} (hsep : isBlank sep = false) (s : List Char) :
    ((trim s).splitOn sep).map trim = (s.splitOn sep).map trim := by
  obtain ⟨a, b, ha, hb, hs⟩ := exists_eq_append_trim s
  rw [hs, map_trim_splitOn_append hsep ha hb, ← hs]

end ReportRouting.Text
