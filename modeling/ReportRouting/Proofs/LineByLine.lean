import ReportRouting.Proofs.LineEnds
import ReportRouting.Proofs.RuleFile

/-!
Files in parts.

A file is read line by line: nothing but the number of a line depends on the lines before it. So
the rules of a file that is put together from two are those of the first, followed by those of the
second on lines that are counted on, and a fault is that of the first part that has one.

The line behind the last newline of a text is a line only if it is not empty, which makes texts
awkward to join. Reading does not mind an empty line more or less at the end, and with it the lines
of joined texts are the joined lines.
-/

namespace ReportRouting

namespace Text

/-! ### Texts by their lines -/

/-- A text is one line without a newline, or it has a line of this kind, a newline and a text. -/
@[elab_as_elim]
theorem lineInduction {P : List Char → Prop} (last : ∀ line, '\n' ∉ line → P line)
    (line : ∀ line rest, '\n' ∉ line → P rest → P (line ++ '\n' :: rest))
    (s : List Char) : P s := by
  suffices h : ∀ begun, '\n' ∉ begun → P (begun ++ s) from h [] List.not_mem_nil
  induction s with
  | nil =>
      intro begun hbegun
      rw [List.append_nil]
      exact last begun hbegun
  | cons c s ih =>
      intro begun hbegun
      by_cases hc : c = '\n'
      · rw [hc]
        exact line begun s hbegun (ih [] List.not_mem_nil)
      · have hmore : '\n' ∉ begun ++ [c] := by
          rw [List.mem_append, List.mem_singleton, not_or]
          exact ⟨hbegun, Ne.symm hc⟩
        rw [← List.singleton_append, ← List.append_assoc]
        exact ih (begun ++ [c]) hmore

/-- The lines of a text and, as the last of them, what stands behind the last newline, even if it is
empty. -/
def linesToEnd (s : List Char) : List (List Char) :=
  (s.splitOn '\n').dropLast.map dropReturn ++ (s.splitOn '\n').getLast?.toList

theorem lines_of_not_mem {line : List Char} (h : '\n' ∉ line) :
    lines line = if line.isEmpty then [] else [line] := by
  rw [lines, List.splitOn_eq_singleton h, linesOfPieces_singleton]

theorem linesToEnd_of_not_mem {line : List Char} (h : '\n' ∉ line) : linesToEnd line = [line] := by
  rw [linesToEnd, List.splitOn_eq_singleton h]
  rfl

theorem linesToEnd_append {line : List Char} (h : '\n' ∉ line) (rest : List Char) :
    linesToEnd (line ++ '\n' :: rest) = dropReturn line :: linesToEnd rest := by
  obtain ⟨next, more, hrest⟩ := List.exists_cons_of_ne_nil (List.splitOn_ne_nil '\n' rest)
  rw [linesToEnd, List.splitOn_append_cons_self, List.splitOn_eq_singleton h, hrest, linesToEnd,
    hrest]
  rfl

theorem length_linesToEnd (s : List Char) : (linesToEnd s).length = 1 + s.count '\n' := by
  induction s using lineInduction with
  | last line h => rw [linesToEnd_of_not_mem h, List.count_eq_zero_of_not_mem h]; rfl
  | line line rest h ih =>
      rw [linesToEnd_append h, List.length_cons, ih, List.count_append,
        List.count_eq_zero_of_not_mem h, List.count_cons_self]
      omega

/-- The lines of joined texts are the joined lines, unless the newline between them takes a
carriage return away. -/
theorem linesToEnd_join {s : List Char} (h : s.getLast? ≠ some '\r') (t : List Char) :
    linesToEnd (s ++ '\n' :: t) = linesToEnd s ++ linesToEnd t := by
  induction s using lineInduction with
  | last line hline =>
      rw [linesToEnd_append hline, linesToEnd_of_not_mem hline, dropReturn_eq_self h]
      rfl
  | line line rest hline ih =>
      have hrest : rest.getLast? ≠ some '\r' := by
        intro hlast
        rw [List.getLast?_append, List.getLast?_cons, hlast] at h
        exact h rfl
      rw [List.append_assoc, List.cons_append, linesToEnd_append hline, linesToEnd_append hline,
        ih hrest, List.cons_append]

end Text

open Text

/-! ### Lines read one after the other -/

/-- The rules on some lines, which are counted from a number on. -/
def readLinesFrom (number : Nat) (ls : List (List Char)) : Except MalformedRule (List Rule) := do
  let entries ← (ls.zipIdx number).mapM fun p => readNumberedLine p.1 p.2
  return entries.filterMap id

theorem readRules_eq_readLinesFrom (text : String) :
    readRules text = readLinesFrom 1 (lines text.toList) :=
  rfl

@[simp] theorem readLinesFrom_nil (number : Nat) : readLinesFrom number [] = .ok [] := rfl

theorem readLinesFrom_cons (number : Nat) (line : List Char) (ls : List (List Char)) :
    readLinesFrom number (line :: ls) = do
      let entry ← readNumberedLine line number
      let rules ← readLinesFrom (number + 1) ls
      return entry.toList ++ rules := by
  rw [readLinesFrom, readLinesFrom, List.zipIdx_cons, List.mapM_cons]
  simp only [bind_assoc, pure_bind]
  congr 1
  funext entry
  cases entry <;> rfl

theorem readLinesFrom_append (number : Nat) (ls more : List (List Char)) :
    readLinesFrom number (ls ++ more) = do
      let rules ← readLinesFrom number ls
      let others ← readLinesFrom (number + ls.length) more
      return rules ++ others := by
  induction ls generalizing number with
  | nil =>
      rw [List.nil_append, readLinesFrom_nil, List.length_nil, Nat.add_zero]
      exact (bind_pure _).symm
  | cons line ls ih =>
      have hlength : number + (line :: ls).length = number + 1 + ls.length := by
        rw [List.length_cons]
        omega
      rw [List.cons_append, readLinesFrom_cons, readLinesFrom_cons, ih, hlength]
      simp only [bind_assoc, pure_bind, List.append_assoc]

/-- An empty line at the end of a text states nothing. -/
theorem readRules_eq_readLinesFrom_linesToEnd (text : String) :
    readRules text = readLinesFrom 1 (linesToEnd text.toList) := by
  rw [readRules_eq_readLinesFrom]
  generalize 1 = number
  induction text.toList using lineInduction generalizing number with
  | last line h =>
      rw [lines_of_not_mem h, linesToEnd_of_not_mem h]
      cases line <;> rfl
  | line line rest h ih =>
      rw [lines_append h, linesToEnd_append h, readLinesFrom_cons, readLinesFrom_cons, ih]

/-! ### Numbers -/

def MalformedRule.movedDown (n : Nat) (e : MalformedRule) : MalformedRule :=
  { e with line := e.line + n }

def Rule.movedDown (n : Nat) (r : Rule) : Rule :=
  { r with line := r.line + n }

theorem readNumberedLine_add (line : List Char) (number n : Nat) :
    readNumberedLine line (number + n) =
      match readNumberedLine line number with
      | .error e => .error (e.movedDown n)
      | .ok entry => .ok (entry.map (Rule.movedDown n)) := by
  rw [readNumberedLine, readNumberedLine]
  rcases readRuleLine line with fault | _ | ⟨recipients, tags⟩ <;> rfl

/-- Where lines are counted from has no part in what they state. -/
theorem readLinesFrom_add (number n : Nat) (ls : List (List Char)) :
    readLinesFrom (number + n) ls =
      match readLinesFrom number ls with
      | .error e => .error (e.movedDown n)
      | .ok rules => .ok (rules.map (Rule.movedDown n)) := by
  induction ls generalizing number with
  | nil => rfl
  | cons line ls ih =>
      rw [readLinesFrom_cons, readLinesFrom_cons, readNumberedLine_add, Nat.add_right_comm, ih]
      rcases readNumberedLine line number with e | entry
      · rfl
      rcases readLinesFrom (number + 1) ls with e | rules
      · rfl
      · cases entry <;> rfl

/-! ### Two files in one -/

theorem readRules_join {first second : String} (h : first.toList.getLast? ≠ some '\r') :
    readRules (first ++ "\n" ++ second) = do
      let rules ← readRules first
      let more ← readLinesFrom (1 + (1 + first.toList.count '\n')) (linesToEnd second.toList)
      return rules ++ more := by
  have htext : (first ++ "\n" ++ second).toList = first.toList ++ '\n' :: second.toList := by simp
  rw [readRules_eq_readLinesFrom_linesToEnd, htext, linesToEnd_join h, readLinesFrom_append,
    length_linesToEnd, ← readRules_eq_readLinesFrom_linesToEnd]

/-- With a newline between them, two files are read as one. If the first is refused, they are
refused for the same fault. If only the second is refused, so are they, for its fault on a line that
is counted on from the lines of the first. And if both can be read, the rules of the second come
behind those of the first, and nothing but their lines has changed. -/
theorem readRules_reads_parts {first second : String} (h : first.toList.getLast? ≠ some '\r') :
    (∀ e, readRules first = .error e → readRules (first ++ "\n" ++ second) = .error e) ∧
    ∀ rules, readRules first = .ok rules →
      let n := 1 + first.toList.count '\n'
      (∀ e, readRules second = .error e →
        readRules (first ++ "\n" ++ second) = .error { e with line := e.line + n }) ∧
      ∀ more, readRules second = .ok more →
        readRules (first ++ "\n" ++ second) =
          .ok (rules ++ more.map fun r => { r with line := r.line + n }) := by
  have hjoined := @readRules_join first second h
  rw [readLinesFrom_add, ← readRules_eq_readLinesFrom_linesToEnd] at hjoined
  refine ⟨fun e he => ?_, fun rules hrules => ⟨fun e he => ?_, fun more hmore => ?_⟩⟩
  · rw [hjoined, he]
    rfl
  · rw [hjoined, hrules, he]
    rfl
  · rw [hjoined, hrules, hmore]
    rfl

/-- The first part ends in a newline of its own, so a blank line comes between the parts. -/
theorem readRules_reads_parts_of_sample :
    let first := "ops@site: fan # one\r\n"
    first.toList.getLast? ≠ some '\r' ∧
    readRules (first ++ "\n" ++ "# to: all\nhw@site: disk") =
      .ok [⟨["ops@site"], ⟨["fan"], []⟩, 1⟩, ⟨["hw@site"], ⟨["disk"], []⟩, 4⟩] ∧
    readRules (first ++ "\n" ++ "hw@site: !all # no\r\nno colon") =
      .error ⟨3, "hw@site: !all # no", .negatedWildcard⟩ := by
  intro first
  have hlast : first.toList.getLast? ≠ some '\r' := by decide
  have hfirst : readRules first = .ok [⟨["ops@site"], ⟨["fan"], []⟩, 1⟩] := by decide +kernel
  have hfine : readRules "# to: all\nhw@site: disk" = .ok [⟨["hw@site"], ⟨["disk"], []⟩, 2⟩] := by
    decide +kernel
  have hfaulty : readRules "hw@site: !all # no\r\nno colon" =
      .error ⟨1, "hw@site: !all # no", .negatedWildcard⟩ := by
    decide +kernel
  have hcount : 1 + first.toList.count '\n' = 2 := by decide
  have hjoined := ((@readRules_reads_parts first _ hlast).2 _ hfirst).2 _ hfine
  have hjoined' := ((@readRules_reads_parts first _ hlast).2 _ hfirst).1 _ hfaulty
  rw [hcount] at hjoined hjoined'
  exact ⟨hlast, hjoined, hjoined'⟩

/-- A carriage return at the end of the first part would be lost to the newline. -/
example : readRules "no colon\r" = .error ⟨1, "no colon\r", .noSeparator⟩ ∧
    readRules ("no colon\r" ++ "\n" ++ "") = .error ⟨1, "no colon", .noSeparator⟩ := by
  decide +kernel

end ReportRouting
