/-!
Sets of tags, as lists without repetition in ascending order.
-/

namespace ReportRouting

def insertAscending (t : String) : List String → List String
  | [] => [t]
  | u :: rest =>
    if t < u then t :: u :: rest
    else if t = u then u :: rest
    else u :: insertAscending t rest

theorem mem_insertAscending {t u : String} {names : List String} :
    u ∈ insertAscending t names ↔ u = t ∨ u ∈ names := by
  induction names with
  | nil => simp [insertAscending]
  | cons v rest ih =>
    rw [insertAscending]
    split
    · simp
    · split
      · next h => simp [h]
      · simp only [List.mem_cons, ih]; grind

theorem pairwise_insertAscending {t : String} {names : List String}
    (h : names.Pairwise (· < ·)) : (insertAscending t names).Pairwise (· < ·) := by
  induction names with
  | nil => simp [insertAscending]
  | cons v rest ih =>
    obtain ⟨hv, hrest⟩ := List.pairwise_cons.1 h
    rw [insertAscending]
    split
    · next hlt =>
      refine List.pairwise_cons.2 ⟨fun u hu => ?_, h⟩
      rcases List.mem_cons.1 hu with rfl | hu
      · exact hlt
      · exact String.lt_trans hlt (hv u hu)
    · next hlt =>
      split
      · exact h
      · next hne =>
        refine List.pairwise_cons.2 ⟨fun u hu => ?_, ih hrest⟩
        rcases mem_insertAscending.1 hu with rfl | hu
        · have hle := String.not_lt.1 hlt
          rcases Decidable.em (v < u) with h' | h'
          · exact h'
          · exact absurd (String.le_antisymm (String.not_lt.1 h') hle) hne
        · exact hv u hu

theorem insertAscending_of_forall_lt {t : String} {names : List String}
    (h : ∀ u ∈ names, u < t) : insertAscending t names = names ++ [t] := by
  induction names with
  | nil => rfl
  | cons u rest ih =>
    have hu := h u List.mem_cons_self
    have hne : t ≠ u := by
      rintro rfl
      exact String.lt_irrefl t hu
    rw [insertAscending, if_neg (String.lt_asymm hu), if_neg hne,
      ih fun v hv => h v (List.mem_cons_of_mem u hv), List.cons_append]

structure TagSet where
  names : List String
  ascending : names.Pairwise (· < ·)
  deriving DecidableEq

namespace TagSet

def empty : TagSet :=
  ⟨[], List.Pairwise.nil⟩

instance : Inhabited TagSet :=
  ⟨empty⟩

def insert (s : TagSet) (t : String) : TagSet :=
  ⟨insertAscending t s.names, pairwise_insertAscending s.ascending⟩

def insertAll (s : TagSet) (ts : List String) : TagSet :=
  ts.foldl insert s

def ofList (ts : List String) : TagSet :=
  empty.insertAll ts

def contains (s : TagSet) (t : String) : Bool :=
  s.names.contains t

@[simp] theorem names_empty : empty.names = [] := rfl

@[simp] theorem mem_names_insert {s : TagSet} {t u : String} :
    u ∈ (s.insert t).names ↔ u = t ∨ u ∈ s.names :=
  mem_insertAscending

@[simp] theorem mem_names_insertAll {s : TagSet} {ts : List String} {u : String} :
    u ∈ (s.insertAll ts).names ↔ u ∈ ts ∨ u ∈ s.names := by
  induction ts generalizing s with
  | nil => simp [insertAll]
  | cons t ts ih =>
    have h : s.insertAll (t :: ts) = (s.insert t).insertAll ts := rfl
    rw [h, ih, mem_names_insert, List.mem_cons]
    grind

theorem contains_iff {s : TagSet} {t : String} : s.contains t = true ↔ t ∈ s.names := by
  simp [contains]

theorem names_insertAll_of_pairwise {ts : List String} :
    ∀ {s : TagSet}, (s.names ++ ts).Pairwise (· < ·) → (s.insertAll ts).names = s.names ++ ts := by
  induction ts with
  | nil => exact fun {s} _ => (List.append_nil s.names).symm
  | cons t ts ih =>
    intro s h
    have hsplit : s.names ++ t :: ts = s.names ++ [t] ++ ts := by simp
    have hlt : ∀ u ∈ s.names, u < t := fun u hu =>
      (List.pairwise_append.1 h).2.2 u hu t List.mem_cons_self
    have hinsert : (s.insert t).names = s.names ++ [t] := insertAscending_of_forall_lt hlt
    rw [hsplit] at h ⊢
    rw [← hinsert] at h ⊢
    exact ih h

theorem eq_of_names_eq {s t : TagSet} (h : s.names = t.names) : s = t := by
  cases s
  cases t
  cases h
  rfl

/-- The names of a set give the set. -/
@[simp] theorem ofList_names (s : TagSet) : ofList s.names = s :=
  eq_of_names_eq (names_insertAll_of_pairwise (s := empty) (by simpa using s.ascending))

end TagSet

end ReportRouting
