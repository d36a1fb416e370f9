import ReportRouting.Text.Lines

/-!
Texts made of whole lines.

A text that ends in a newline is made of whole lines. Its lines with a newline behind each of them
make up the same text again, but for the carriage returns that stood before a newline.
-/

namespace ReportRouting.Text

/-- A text with a plain newline for each newline that has a carriage return before it. -/
def withoutReturns : List Char → List Char
  | '\r' :: '\n' :: rest => '\n' :: withoutReturns rest
  | c :: rest => c :: withoutReturns rest
  | [] => []

def ended (line : List Char) : List Char :=
  line ++ ['\n']

/-! ### The front line of a text -/

theorem dropReturn_cons_cons (c d : Char) (line : List Char) :
    dropReturn (c :: d :: line) = c :: dropReturn (d :: line) := by
  simp only [dropReturn, List.getLast?_cons_cons, List.dropLast_cons_cons]
  split <;> rfl

theorem mem_of_mem_dropReturn {line : List Char} {c : Char} (h : c ∈ dropReturn line) :
    c ∈ line := by
  rw [dropReturn] at h
  split at h
  · exact List.dropLast_subset line h
  · exact h

theorem dropReturn_eq_self {line : List Char} (h : line.getLast? ≠ some '\r') :
    dropReturn line = line :=
  if_neg h

theorem withoutReturns_cons_cons {d : Char} (h : d ≠ '\n') (c : Char) (rest : List Char) :
    withoutReturns (c :: d :: rest) = c :: withoutReturns (d :: rest) := by
  rw [withoutReturns]
  rintro _ _ hrest
  cases hrest
  exact h rfl

theorem withoutReturns_newline (rest : List Char) :
    withoutReturns ('\n' :: rest) = '\n' :: withoutReturns rest := by
  rw [withoutReturns]
  nofun

theorem withoutReturns_append {piece : List Char} (h : '\n' ∉ piece) (rest : List Char) :
    withoutReturns (piece ++ '\n' :: rest) = ended (dropReturn piece) ++ withoutReturns rest := by
  induction piece with
  | nil => exact withoutReturns_newline rest
  | cons c piece ih =>
      cases piece with
      | nil =>
          by_cases hc : c = '\r'
          · rw [hc]
            rfl
          · have hdrop : dropReturn [c] = [c] := if_neg fun hlast => hc (Option.some.inj hlast)
            show withoutReturns (c :: '\n' :: rest) = ended (dropReturn [c]) ++ _
            rw [withoutReturns, withoutReturns_newline, hdrop]
            · rfl
            · intro _ hreturn
              exact absurd hreturn hc
      | cons d piece =>
          have hd : d ≠ '\n' := by
            rintro rfl
            exact h (by simp)
          rw [List.cons_append, List.cons_append, withoutReturns_cons_cons hd, ← List.cons_append,
            ih (List.not_mem_of_not_mem_cons h), dropReturn_cons_cons]
          rfl

theorem lines_append {piece : List Char} (h : '\n' ∉ piece) (rest : List Char) :
    lines (piece ++ '\n' :: rest) = dropReturn piece :: lines rest := by
  have hsplit : (piece ++ '\n' :: rest).splitOn '\n' = piece :: rest.splitOn '\n' := by
    apply List.splitOnP_append_cons_of_forall_mem
    · intro c hc
      exact beq_eq_false_iff_ne.2 fun hcn => h (hcn ▸ hc)
    · rfl
  obtain ⟨next, more, hrest⟩ := List.exists_cons_of_ne_nil (List.splitOn_ne_nil '\n' rest)
  rw [lines, lines, hsplit, hrest, linesOfPieces_cons_cons]

/-- Lines at the front of a text are its first lines. -/
theorem lines_flatMap_append {ls : List (List Char)} (h : ∀ line ∈ ls, '\n' ∉ line)
    (rest : List Char) :
    lines (ls.flatMap (· ++ ['\n']) ++ rest) = ls.map dropReturn ++ lines rest := by
  induction ls with
  | nil => rfl
  | cons line ls ih =>
      obtain ⟨hline, hls⟩ := List.forall_mem_cons.1 h
      rw [List.flatMap_cons, List.append_assoc, List.append_assoc, List.singleton_append,
        lines_append hline, ih hls]
      rfl

/-! ### The whole text -/

inductive IsWhole : List Char → Prop where
  | nil : IsWhole []
  | line {piece rest : List Char} (hpiece : '\n' ∉ piece) (hrest : IsWhole rest) :
      IsWhole (piece ++ '\n' :: rest)

theorem isWhole_of_getLast? {s : List Char} (h : s = [] ∨ s.getLast? = some '\n') : IsWhole s := by
  induction s with
  | nil => exact .nil
  | cons c s ih =>
      have hs : IsWhole s := by
        apply ih
        cases s with
        | nil => exact .inl rfl
        | cons d s => exact .inr (by simpa using h)
      by_cases hc : c = '\n'
      · rw [hc]
        exact .line List.not_mem_nil hs
      · -- The character belongs to the first line of the rest, and there is one.
        cases hs with
        | nil => exact absurd (by simpa using h) hc
        | line hpiece hrest =>
            exact .line (List.not_mem_cons_of_ne_of_not_mem (Ne.symm hc) hpiece) hrest

theorem IsWhole.flatMap_ended_lines {s : List Char} (h : IsWhole s) :
    (lines s).flatMap ended = withoutReturns s := by
  induction h with
  | nil => rw [lines_nil, withoutReturns, List.flatMap_nil]
  | line hpiece _ ih =>
      rw [lines_append hpiece, withoutReturns_append hpiece, List.flatMap_cons, ih]

theorem IsWhole.newline_not_mem {s line : List Char} (h : IsWhole s) (hline : line ∈ lines s) :
    '\n' ∉ line := by
  induction h with
  | nil => simp at hline
  | line hpiece _ ih =>
      rw [lines_append hpiece, List.mem_cons] at hline
      cases hline with
      | inl hfront =>
          rw [hfront]
          exact fun hmem => hpiece (mem_of_mem_dropReturn hmem)
      | inr hrest => exact ih hrest

end ReportRouting.Text
