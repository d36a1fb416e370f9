import ReportRouting.Proofs.RuleLine

/-!
The rules of a file.

A file can be read if every line is blank, a comment or a rule line, and then each line that states
a rule gives one rule, which bears the number of its line.
-/

namespace ReportRouting

open Text

theorem readNumberedLine_eq_ok_iff {line : List Char} {number : Nat} {entry : Option Rule} :
    readNumberedLine line number = .ok entry ↔
      ∃ stated, readRuleLine line = .ok stated ∧
        entry = stated.map fun stated => ⟨stated.1, stated.2, number⟩ := by
  rw [readNumberedLine]
  rcases readRuleLine line with fault | _ | ⟨recipients, tags⟩ <;> simp [eq_comm]

/-- A line passes if it is blank, a comment or states a rule. -/
theorem exists_readNumberedLine_eq_ok_iff {line : List Char} {number : Nat} :
    (∃ entry, readNumberedLine line number = .ok entry) ↔
      IsBlankLine line ∨ IsCommentLine line ∨ IsRuleLine line := by
  constructor
  · rintro ⟨entry, h⟩
    obtain ⟨stated, h, _⟩ := readNumberedLine_eq_ok_iff.1 h
    cases stated with
    | none =>
        rcases readRuleLine_eq_none_iff.1 h with hblank | hcomment
        · exact .inl hblank
        · exact .inr (.inl hcomment)
    | some stated => exact .inr (.inr (exists_readRuleLine_eq_some_iff.1 ⟨stated, h⟩).1)
  · intro h
    have hread : ∃ stated, readRuleLine line = .ok stated := by
      by_cases hnone : IsBlankLine line ∨ IsCommentLine line
      · exact ⟨none, readRuleLine_of_no_rule hnone⟩
      · rw [← or_assoc, or_iff_right hnone] at h
        rw [not_or] at hnone
        obtain ⟨stated, hstated⟩ := exists_readRuleLine_eq_some_iff.2 ⟨h, hnone.2⟩
        exact ⟨some stated, hstated⟩
    obtain ⟨stated, hstated⟩ := hread
    exact ⟨_, readNumberedLine_eq_ok_iff.2 ⟨stated, hstated, rfl⟩⟩

/-- The rule of a line bears its number, and only a line that states a rule has one. -/
theorem map_line_of_readNumberedLine {line : List Char} {number : Nat} {entry : Option Rule}
    (h : readNumberedLine line number = .ok entry) :
    entry.map Rule.line = if StatesRule line then some number else none := by
  obtain ⟨stated, hread, rfl⟩ := readNumberedLine_eq_ok_iff.1 h
  cases stated with
  | none =>
      rw [if_neg]
      · rfl
      · intro hrule
        obtain ⟨stated, hstated⟩ := exists_readRuleLine_eq_some_iff.2 hrule
        rw [hread] at hstated
        cases hstated
  | some stated =>
      rw [if_pos (exists_readRuleLine_eq_some_iff.1 ⟨stated, hread⟩)]
      rfl

theorem readRules_eq_ok_iff {text : String} {rules : List Rule} :
    readRules text = .ok rules ↔
      ∃ entries, List.Forall₂ (fun p entry => readNumberedLine p.1 p.2 = .ok entry)
        ((lines text.toList).zipIdx 1) entries ∧ rules = entries.filterMap id := by
  rw [readRules, bind_eq_ok_iff]
  simp only [mapM_eq_ok_iff]
  constructor
  · rintro ⟨entries, hentries, h⟩
    cases h
    exact ⟨entries, hentries, rfl⟩
  · rintro ⟨entries, hentries, rfl⟩
    exact ⟨entries, hentries, rfl⟩

/-- Every rule of a file stands on the line whose number it bears. -/
theorem exists_line_of_mem_rules {text : String} {rules : List Rule}
    (h : readRules text = .ok rules) {r : Rule} (hr : r ∈ rules) :
    ∃ line, (line, r.line) ∈ (lines text.toList).zipIdx 1 ∧
      readRuleLine line = .ok (some (r.recipients, r.tags)) := by
  obtain ⟨entries, hentries, rfl⟩ := readRules_eq_ok_iff.1 h
  obtain ⟨entry, hentry, rfl⟩ := List.mem_filterMap.1 hr
  obtain ⟨⟨line, number⟩, hline, hread⟩ := exists_of_forall₂_of_mem hentries hentry
  obtain ⟨stated, hstated, hentry⟩ := readNumberedLine_eq_ok_iff.1 hread
  obtain ⟨⟨recipients, tags⟩, rfl, rfl⟩ := Option.map_eq_some_iff.1 hentry.symm
  exact ⟨line, hline, hstated⟩

theorem map_line_filterMap_of_forall₂ {numbered : List (List Char × Nat)}
    {entries : List (Option Rule)}
    (h : List.Forall₂ (fun p entry => readNumberedLine p.1 p.2 = .ok entry) numbered entries) :
    (entries.filterMap id).map Rule.line =
      (numbered.filter fun p => StatesRule p.1).map (·.2) := by
  induction h with
  | nil => rfl
  | @cons p entry _ _ hentry _ ih =>
      have hline := map_line_of_readNumberedLine hentry
      rw [List.filter_cons]
      cases entry with
      | none =>
          rw [if_neg]
          · exact ih
          · intro hrule
            rw [if_pos (of_decide_eq_true hrule)] at hline
            cases hline
      | some rule =>
          split_ifs at hline with hrule
          · rw [if_pos (decide_eq_true hrule), List.map_cons, ← ih]
            exact congrArg (· :: _) (Option.some.inj hline)
          · cases hline

/-- A file is read if each of its lines is blank, a comment or a rule line, and then there is one
rule for each line that states one, in their order and with their numbers. -/
theorem readRules_reads_rule_lines (text : String) :
    ((∃ rules, readRules text = .ok rules) ↔
      ∀ line ∈ lines text.toList, IsBlankLine line ∨ IsCommentLine line ∨ IsRuleLine line) ∧
    ∀ rules, readRules text = .ok rules →
      rules.map Rule.line =
        (((lines text.toList).zipIdx 1).filter fun p => StatesRule p.1).map (·.2) := by
  constructor
  · have hread : (∃ rules, readRules text = .ok rules) ↔
        ∃ entries, ((lines text.toList).zipIdx 1).mapM (fun p => readNumberedLine p.1 p.2) =
          .ok entries := by
      simp only [readRules_eq_ok_iff, mapM_eq_ok_iff]
      exact ⟨fun ⟨_, entries, h, _⟩ => ⟨entries, h⟩, fun ⟨entries, h⟩ => ⟨_, entries, h, rfl⟩⟩
    rw [hread, exists_mapM_eq_ok_iff]
    simp only [exists_readNumberedLine_eq_ok_iff]
    conv_rhs => rw [← List.zipIdx_map_fst 1 (lines text.toList)]
    rw [List.forall_mem_map]
  · intro rules h
    obtain ⟨entries, hentries, rfl⟩ := readRules_eq_ok_iff.1 h
    exact map_line_filterMap_of_forall₂ hentries

/-- A comment that looks like a rule, a line of blanks, and two rules, the first with a recipient
that looks like a comment. -/
def sampleFile : String :=
  "# a: b\n \u00a0\t\nops@site.example,#night: all, !quiet\r\nc d: e.f # g: h"

def sampleFileRules : List Rule :=
  [⟨["ops@site.example", "#night"], ⟨["all"], ["quiet"]⟩, 3⟩, ⟨["c", "d"], ⟨["e.f"], []⟩, 4⟩]

theorem readRules_reads_rule_lines_of_sample :
    readRules sampleFile = .ok sampleFileRules ∧
      sampleFileRules.map Rule.line =
        (((lines sampleFile.toList).zipIdx 1).filter fun p => StatesRule p.1).map (·.2) := by
  have hread : readRules sampleFile = .ok sampleFileRules := by decide +kernel
  exact ⟨hread, (readRules_reads_rule_lines sampleFile).2 sampleFileRules hread⟩

end ReportRouting
