import Mathlib.Logic.Relation
import ReportRouting.Proofs.LineByLine

/-!
Layout carries no meaning.

Blanks around a line, a comment behind it and the kind of its line end may be changed at will: the
same rules are read, on the same lines, or the same fault is found on the same line. What stays is
the statement of each line, which is what stands before its comment, without the blanks around it,
and a line is read from its statement alone.
-/

namespace ReportRouting

open Text

/-! ### Comments behind a line -/

/-- What stands behind a comment belongs to it. -/
theorem cutComment_append_of_ne {afterBlank : Bool} {u : List Char}
    (h : cutComment afterBlank u ≠ u) (v : List Char) :
    cutComment afterBlank (u ++ v) = cutComment afterBlank u := by
  induction u generalizing afterBlank with
  | nil => exact absurd rfl h
  | cons c u ih =>
      rw [cutComment_cons] at h
      rw [List.cons_append, cutComment_cons, cutComment_cons]
      split_ifs with hcut
      · rfl
      · rw [if_neg hcut] at h
        rw [ih fun hu => h (by rw [hu])]

theorem cutComment_of_allBlank {gap : List Char} (h : AllBlank gap) (afterBlank : Bool) :
    cutComment afterBlank gap = gap := by
  induction gap generalizing afterBlank with
  | nil => rfl
  | cons c gap ih =>
      obtain ⟨hc, hgap⟩ := List.forall_mem_cons.1 h
      have hne : c ≠ '#' := by
        rintro rfl
        exact absurd hc (by decide)
      rw [cutComment_cons_of_ne hne, ih hgap]

theorem blankBefore_of_allBlank {gap : List Char} (h : AllBlank gap) :
    blankBefore true gap = true := by
  induction gap with
  | nil => rfl
  | cons c gap ih =>
      obtain ⟨hc, hgap⟩ := List.forall_mem_cons.1 h
      rw [blankBefore_cons, hc, ih hgap]

theorem blankBefore_append_singleton (afterBlank : Bool) (u : List Char) (c : Char) :
    blankBefore afterBlank (u ++ [c]) = isBlank c := by
  rw [blankBefore, List.getLast?_concat]
  rfl

/-! ### Statements -/

/-- What a line has before its comment, without the blanks around it. -/
def statement (line : List Char) : List Char :=
  trim (cutComment true line)

theorem statement_append_left {gap : List Char} (hgap : AllBlank gap) (line : List Char) :
    statement (gap ++ line) = statement line := by
  rw [statement, cutComment_append line (cutComment_of_allBlank hgap true),
    blankBefore_of_allBlank hgap, trim_append_left hgap, statement]

theorem statement_append_right {gap : List Char} (hgap : AllBlank gap) (line : List Char) :
    statement (line ++ gap) = statement line := by
  by_cases hline : cutComment true line = line
  · rw [statement, cutComment_append gap hline, cutComment_of_allBlank hgap,
      trim_append_right hgap, statement, hline]
  · rw [statement, cutComment_append_of_ne hline, statement]

theorem statement_append_comment {blank : Char} (hblank : isBlank blank = true)
    (line note : List Char) : statement (line ++ blank :: '#' :: note) = statement line := by
  have hpad : statement (line ++ [blank]) = statement line :=
    statement_append_right (List.forall_mem_singleton.2 hblank) line
  rw [List.append_cons, ← hpad]
  -- The comment begins behind the blank, unless the line has one already.
  by_cases hline : cutComment true (line ++ [blank]) = line ++ [blank]
  · rw [statement, cutComment_append _ hline, blankBefore_append_singleton, hblank,
      cutComment_cons, if_pos ⟨rfl, rfl⟩, List.append_nil, statement, hline]
  · rw [statement, cutComment_append_of_ne hline, statement]

theorem statement_trim (line : List Char) : statement (trim line) = statement line := by
  obtain ⟨a, b, ha, hb, hline⟩ := exists_eq_append_trim line
  conv_rhs => rw [hline, statement_append_right hb, statement_append_left ha]

theorem statement_dropReturn (line : List Char) : statement (dropReturn line) = statement line := by
  rw [dropReturn]
  split
  case isTrue hreturn =>
    have hline : line.dropLast ++ ['\r'] = line := List.dropLast_append_getLast? '\r' hreturn
    have hblank : AllBlank ['\r'] := List.forall_mem_singleton.2 (by decide)
    rw [← statement_append_right hblank, hline]
  case isFalse => rfl

theorem statement_eq_nil_iff {line : List Char} :
    statement line = [] ↔ IsBlankLine line ∨ IsCommentLine line := by
  rw [← statement_trim, IsBlankLine, IsCommentLine, ← head?_trim, statement, trim_eq_nil_iff]
  cases htrim : trim line with
  | nil => exact iff_of_true allBlank_nil (.inl rfl)
  | cons c rest =>
      have hc : ¬isBlank c = true := by
        have hfirst := head?_trim line
        rw [htrim, List.head?_cons] at hfirst
        simpa using List.find?_some hfirst.symm
      rw [cutComment_cons]
      split_ifs with hcut
      · exact iff_of_true allBlank_nil (.inr (by rw [hcut.1]; rfl))
      · refine iff_of_false (fun hblank => hc (hblank c List.mem_cons_self)) ?_
        rintro (hnil | hhead)
        · cases hnil
        · exact hcut ⟨Option.some.inj hhead, rfl⟩

/-! ### Lines by their statements -/

/-- What the two sides of the first colon state. -/
def readSides (s : List Char) : Except RuleFault (Option (List String × TagExpr)) :=
  match halves? s with
  | none => .error .noSeparator
  | some (before, after) =>
    if (readRecipients before).isEmpty then .error .noRecipients
    else do
      let tokens ← readTokens after
      let tags ← TagExpr.ofTokens tokens
      return some (readRecipients before, tags)

theorem readTokens_append_right {gap : List Char} (hgap : AllBlank gap) (tags : List Char) :
    readTokens (tags ++ gap) = readTokens tags := by
  rw [readTokens, trim_append_right hgap, readTokens]

/-- Blanks around both sides go with the recipients and with the tags. -/
theorem readSides_append {a b : List Char} (ha : AllBlank a) (hb : AllBlank b) (s : List Char) :
    readSides (a ++ s ++ b) = readSides s := by
  -- A blank is no colon, so the first colon is where it was.
  have hcolon : ∀ {gap : List Char}, AllBlank gap → ':' ∉ gap := fun hgap hmem =>
    absurd (hgap ':' hmem) (by decide)
  cases hs : halves? s with
  | none =>
      have hnone : halves? (a ++ s ++ b) = none := by
        rw [halves?_eq_none_iff] at hs ⊢
        simp [hs, hcolon ha, hcolon hb]
      rw [readSides, hnone, readSides, hs]
  | some sides =>
      obtain ⟨before, after⟩ := sides
      obtain ⟨rfl, hbefore⟩ := halves?_eq_some_iff.1 hs
      have hsome : halves? (a ++ (before ++ ':' :: after) ++ b) =
          some (a ++ before, after ++ b) := by
        rw [halves?_eq_some_iff]
        simp [hbefore, hcolon ha]
      have hgap : ∀ c ∈ a, isGap c = true := fun c hc => by rw [isGap, ha c hc, Bool.or_true]
      rw [readSides, hsome, readSides, hs]
      simp only [readRecipients_append_of_gap hgap, readTokens_append_right hb]

theorem readSides_trim (s : List Char) : readSides (trim s) = readSides s := by
  obtain ⟨a, b, ha, hb, hs⟩ := exists_eq_append_trim s
  conv_rhs => rw [hs, readSides_append ha hb]

/-- A line is read from its statement alone. -/
theorem readRuleLine_eq_statement (line : List Char) :
    readRuleLine line =
      if (statement line).isEmpty then .ok none else readSides (statement line) := by
  by_cases hnone : IsBlankLine line ∨ IsCommentLine line
  · rw [readRuleLine_of_no_rule hnone, statement_eq_nil_iff.2 hnone]
    rfl
  · have hsome : (statement line).isEmpty = false :=
      List.isEmpty_eq_false_iff.2 fun hnil => hnone (statement_eq_nil_iff.1 hnil)
    rw [not_or] at hnone
    have hcut : cutComment true (trim line) = cutComment false (trim line) := by
      apply cutComment_eq_of_head?_ne
      rw [head?_trim]
      exact hnone.2
    rw [readRuleLine_eq_match hnone.1 hnone.2, hsome, ← statement_trim, statement, readSides_trim,
      hcut]
    rfl

/-! ### Edits -/

/-- Blanks that do not end a line. -/
def IsPadding (gap : List Char) : Prop :=
  AllBlank gap ∧ '\n' ∉ gap

/-- Edits within a line: blanks before it, blanks behind it, a comment behind it. -/
inductive LineEdit (line : List Char) : List Char → Prop
  | before {gap : List Char} (hgap : IsPadding gap) : LineEdit line (gap ++ line)
  | behind {gap : List Char} (hgap : IsPadding gap) : LineEdit line (line ++ gap)
  | comment {blank : Char} {note : List Char} (hblank : IsPadding [blank]) (hnote : '\n' ∉ note) :
      LineEdit line (line ++ blank :: '#' :: note)

/-- What may stand behind a line: nothing, or a line end of either kind and more lines. -/
inductive EndsLine : List Char → Prop
  | last : EndsLine []
  | newline (rest : List Char) : EndsLine ('\n' :: rest)
  | returnNewline (rest : List Char) : EndsLine ('\r' :: '\n' :: rest)

/-- Edits of a text: an edit within one of its lines, or a carriage return put before a newline. -/
inductive LayoutEdit : List Char → List Char → Prop
  | line {front line edited rest : List Char} (hfront : front = [] ∨ front.getLast? = some '\n')
      (hline : '\n' ∉ line) (hrest : EndsLine rest) (hedit : LineEdit line edited) :
      LayoutEdit (front ++ line ++ rest) (front ++ edited ++ rest)
  | lineEnd (front rest : List Char) :
      LayoutEdit (front ++ '\n' :: rest) (front ++ '\r' :: '\n' :: rest)

theorem LineEdit.newline_not_mem {line edited : List Char} (h : LineEdit line edited)
    (hline : '\n' ∉ line) : '\n' ∉ edited := by
  cases h with
  | before hgap => simp [hgap.2, hline]
  | behind hgap => simp [hgap.2, hline]
  | comment hblank hnote =>
      have hne : '\n' ≠ _ := fun heq => hblank.2 (List.mem_singleton.2 heq)
      simp [hline, hne, hnote]

theorem LineEdit.statement_eq {line edited : List Char} (h : LineEdit line edited) :
    statement edited = statement line := by
  cases h with
  | before hgap => exact statement_append_left hgap.1 line
  | behind hgap => exact statement_append_right hgap.1 line
  | comment hblank _ =>
      exact statement_append_comment (hblank.1 _ (List.mem_singleton_self _)) line _

/-! ### The statements of a text -/

def statements (s : List Char) : List (List Char) :=
  (linesToEnd s).map statement

theorem statements_of_not_mem {line : List Char} (h : '\n' ∉ line) :
    statements line = [statement line] := by
  rw [statements, linesToEnd_of_not_mem h, List.map_singleton]

theorem statements_append {line : List Char} (h : '\n' ∉ line) (rest : List Char) :
    statements (line ++ '\n' :: rest) = statement line :: statements rest := by
  rw [statements, linesToEnd_append h, List.map_cons, statement_dropReturn, statements]

/-- Whole lines in front are no matter to the lines behind them. -/
theorem statements_append_of_isWhole {front : List Char} (h : IsWhole front) {s t : List Char}
    (hst : statements s = statements t) : statements (front ++ s) = statements (front ++ t) := by
  induction h with
  | nil => exact hst
  | line hpiece _ ih =>
      rw [List.append_assoc, List.append_assoc, List.cons_append, List.cons_append,
        statements_append hpiece, statements_append hpiece, ih]

theorem statements_lineEnd (front rest : List Char) :
    statements (front ++ '\r' :: '\n' :: rest) = statements (front ++ '\n' :: rest) := by
  induction front using lineInduction with
  | last line h =>
      have hreturn : '\n' ∉ line ++ ['\r'] := by simp [h]
      rw [List.append_cons, statements_append hreturn, statements_append h,
        statement_append_right (List.forall_mem_singleton.2 (by decide))]
  | line line more h ih =>
      rw [List.append_assoc, List.append_assoc, List.cons_append, List.cons_append,
        statements_append h, statements_append h, ih]

/-- A line end of either kind ends a statement. -/
theorem EndsLine.statements_append_congr {rest line other : List Char} (h : EndsLine rest)
    (hline : '\n' ∉ line) (hother : '\n' ∉ other) (heq : statement line = statement other) :
    statements (line ++ rest) = statements (other ++ rest) := by
  cases h with
  | last =>
      rw [List.append_nil, List.append_nil, statements_of_not_mem hline,
        statements_of_not_mem hother, heq]
  | newline rest => rw [statements_append hline, statements_append hother, heq]
  | returnNewline rest =>
      rw [statements_lineEnd, statements_lineEnd, statements_append hline,
        statements_append hother, heq]

theorem LayoutEdit.statements_eq {s t : List Char} (h : LayoutEdit s t) :
    statements t = statements s := by
  cases h with
  | line hfront hline hrest hedit =>
      rw [List.append_assoc, List.append_assoc]
      apply statements_append_of_isWhole (isWhole_of_getLast? hfront)
      exact hrest.statements_append_congr (hedit.newline_not_mem hline) hline hedit.statement_eq
  | lineEnd front rest => exact statements_lineEnd front rest

theorem statements_eq_of_edits {s t : List Char} (h : Relation.ReflTransGen LayoutEdit s t) :
    statements t = statements s := by
  induction h with
  | refl => rfl
  | tail _ hedit ih => rw [hedit.statements_eq, ih]

/-! ### Files by their statements -/

/-- An answer without the text of the faulty line. -/
def withoutContent {α : Type} (answer : Except MalformedRule α) : Except (Nat × RuleFault) α :=
  answer.mapError fun e => (e.line, e.fault)

section

variable {α β : Type} {answer : Except MalformedRule α}

theorem withoutContent_eq_ok_iff {a : α} : withoutContent answer = .ok a ↔ answer = .ok a := by
  cases answer with
  | error e => exact iff_of_false nofun nofun
  | ok a' => exact ⟨fun h => congrArg Except.ok (Except.ok.inj h), fun h => by rw [h]; rfl⟩

theorem withoutContent_eq_error_iff {line : Nat} {fault : RuleFault} :
    withoutContent answer = .error (line, fault) ↔
      ∃ content, answer = .error ⟨line, content, fault⟩ := by
  cases answer with
  | error e =>
      constructor
      · intro h
        obtain ⟨rfl, rfl⟩ := Prod.mk.inj (Except.error.inj h)
        exact ⟨e.content, rfl⟩
      · rintro ⟨content, h⟩
        rw [h]
        rfl
  | ok a =>
      constructor
      · intro h
        cases h
      · rintro ⟨_, h⟩
        cases h

theorem withoutContent_bind_congr {other : Except MalformedRule α}
    {f g : α → Except MalformedRule β} (h : withoutContent answer = withoutContent other)
    (hfg : ∀ a, withoutContent (f a) = withoutContent (g a)) :
    withoutContent (answer >>= f) = withoutContent (other >>= g) := by
  cases other with
  | error e =>
      obtain ⟨content, rfl⟩ := withoutContent_eq_error_iff.1 h
      rfl
  | ok a =>
      rw [withoutContent_eq_ok_iff.1 h]
      exact hfg a

end

theorem readNumberedLine_congr {line other : List Char} (h : statement line = statement other)
    (number : Nat) :
    withoutContent (readNumberedLine line number) =
      withoutContent (readNumberedLine other number) := by
  rw [readNumberedLine, readNumberedLine, readRuleLine_eq_statement line, h,
    ← readRuleLine_eq_statement other]
  rcases readRuleLine other with fault | _ | ⟨recipients, tags⟩ <;> rfl

theorem readLinesFrom_congr {ls others : List (List Char)}
    (h : ls.map statement = others.map statement) (number : Nat) :
    withoutContent (readLinesFrom number ls) = withoutContent (readLinesFrom number others) := by
  induction ls generalizing others number with
  | nil =>
      rw [List.map_nil, eq_comm, List.map_eq_nil_iff] at h
      rw [h]
  | cons line ls ih =>
      rw [List.map_cons, eq_comm, List.map_eq_cons_iff] at h
      obtain ⟨other, others, rfl, hline, hrest⟩ := h
      rw [readLinesFrom_cons, readLinesFrom_cons]
      apply withoutContent_bind_congr (readNumberedLine_congr hline.symm number)
      intro entry
      exact withoutContent_bind_congr (ih hrest.symm (number + 1)) fun _ => rfl

theorem readRules_congr {text edited : String}
    (h : statements text.toList = statements edited.toList) :
    withoutContent (readRules text) = withoutContent (readRules edited) := by
  rw [readRules_eq_readLinesFrom_linesToEnd, readRules_eq_readLinesFrom_linesToEnd]
  exact readLinesFrom_congr h 1

/-- Edits of the layout, in any number and on any lines, leave a file the rules that it has, with
their lines. If the file is refused, so is the edited one, on the same line and for the same
fault, and only the text of the line may be another one. -/
theorem readRules_keeps_answer_under_edits {text edited : String}
    (h : Relation.ReflTransGen LayoutEdit text.toList edited.toList) :
    (∀ rules, readRules text = .ok rules → readRules edited = .ok rules) ∧
    ∀ e, readRules text = .error e →
      ∃ content, readRules edited = .error { e with content := content } := by
  have hsame := readRules_congr (statements_eq_of_edits h)
  constructor
  · intro rules hrules
    rw [hrules] at hsame
    exact withoutContent_eq_ok_iff.1 hsame
  · intro e he
    rw [he] at hsame
    exact withoutContent_eq_error_iff.1 hsame

/-- Blanks before the first line, a carriage return before the second newline, and a comment with a
colon behind the last line, whether that line states a rule or is at fault. -/
theorem readRules_keeps_answer_under_edits_of_sample :
    readRules "\u00a0ops#1@site: fan # x\n\r\nhw: all\t# to: !all\r" =
      .ok [⟨["ops#1@site"], ⟨["fan"], []⟩, 1⟩, ⟨["hw"], ⟨["all"], []⟩, 3⟩] ∧
    ∃ content, readRules "\u00a0ops#1@site: fan # x\n\r\nhw\t# to: !all\r" =
      .error ⟨3, content, .noSeparator⟩ := by
  have hpadding : ∀ {c : Char}, isBlank c = true → c ≠ '\n' → IsPadding [c] := fun hc hne =>
    ⟨List.forall_mem_singleton.2 hc, fun hmem => hne (List.mem_singleton.1 hmem).symm⟩
  have hspace : IsPadding ['\u00a0'] := hpadding (by decide) (by decide)
  have htab : IsPadding ['\t'] := hpadding (by decide) (by decide)
  have hedits : ∀ last, '\n' ∉ last → Relation.ReflTransGen LayoutEdit
      ("ops#1@site: fan # x\n\n".toList ++ last)
      ("\u00a0ops#1@site: fan # x\n\r\n".toList ++ last ++ "\t# to: !all\r".toList) := by
    intro last hlast
    have hbefore : LayoutEdit ("ops#1@site: fan # x\n\n".toList ++ last)
        ("\u00a0ops#1@site: fan # x\n\n".toList ++ last) := by
      simpa using @LayoutEdit.line [] "ops#1@site: fan # x".toList _ _ (.inl rfl) (by decide)
        (.newline ('\n' :: last)) (.before hspace)
    have hreturn : LayoutEdit ("\u00a0ops#1@site: fan # x\n\n".toList ++ last)
        ("\u00a0ops#1@site: fan # x\n\r\n".toList ++ last) := by
      simpa using LayoutEdit.lineEnd "\u00a0ops#1@site: fan # x\n".toList last
    have hnote : LineEdit last (last ++ '\t' :: '#' :: " to: !all\r".toList) :=
      .comment htab (by decide)
    have hcomment : LayoutEdit ("\u00a0ops#1@site: fan # x\n\r\n".toList ++ last)
        ("\u00a0ops#1@site: fan # x\n\r\n".toList ++ last ++ "\t# to: !all\r".toList) := by
      simpa using @LayoutEdit.line "\u00a0ops#1@site: fan # x\n\r\n".toList _ _ _
        (.inr (by decide)) hlast .last hnote
    exact ((Relation.ReflTransGen.single hbefore).tail hreturn).tail hcomment
  have hfine : Relation.ReflTransGen LayoutEdit "ops#1@site: fan # x\n\nhw: all".toList
      "\u00a0ops#1@site: fan # x\n\r\nhw: all\t# to: !all\r".toList := by
    simpa using hedits "hw: all".toList (by decide)
  have hfaulty : Relation.ReflTransGen LayoutEdit "ops#1@site: fan # x\n\nhw".toList
      "\u00a0ops#1@site: fan # x\n\r\nhw\t# to: !all\r".toList := by
    simpa using hedits "hw".toList (by decide)
  have hfault : readRules "ops#1@site: fan # x\n\nhw" = .error ⟨3, "hw", .noSeparator⟩ := by
    decide +kernel
  exact ⟨(readRules_keeps_answer_under_edits hfine).1 _ (by decide +kernel),
    (readRules_keeps_answer_under_edits hfaulty).2 _ hfault⟩

/-- Without a blank before it, the comment would belong to the last tag. -/
example : readRules "hw: all" = .ok [⟨["hw"], ⟨["all"], []⟩, 1⟩] ∧
    readRules "hw: all# to" = .error ⟨1, "hw: all# to", .invalidTag "all# to"⟩ := by
  decide +kernel

end ReportRouting
