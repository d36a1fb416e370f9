import ReportRouting.Proofs.RuleFile

/-!
What a rule file is refused for.

A line may have several things wrong with it, and a file several such lines. The fault that is
reported is that of the first of these lines, and of its faults the one that comes first when the
line is taken from left to right: its colon, its recipients, its tags one after the other. Only if
nothing is wrong with any of them does it matter whether one of the tags is wanted.
-/

namespace ReportRouting

open Text

/-! ### Entries -/

/-- An entry that may stand in the tag list of a rule. -/
def IsFineEntry (entry : List Char) : Prop :=
  IsTagEntry entry ∧ entry ≠ "!all".toList

/-- Why an entry may not stand there. -/
inductive IsEntryFault (entry : List Char) : RuleFault → Prop
  | invalid (hentry : ¬IsTagEntry entry) : IsEntryFault entry (.invalidTag (String.ofList entry))
  | negatedWildcard (hentry : entry = "!all".toList) : IsEntryFault entry .negatedWildcard

theorem isTagEntry_of_isTagName {entry : List Char} (h : isTagName entry = true) :
    IsTagEntry entry := by
  obtain ⟨hne, hchars⟩ := isTagName_iff.1 h
  exact ⟨[], entry, .inl rfl, hne, hchars, rfl⟩

theorem isTagEntry_cons_mark_iff {name : List Char} :
    IsTagEntry ('!' :: name) ↔ isTagName name = true := by
  constructor
  · rintro ⟨mark, name', rfl | rfl, hne, hchars, heq⟩
    · -- Without the mark the `!` would have to be a character of the name.
      rw [List.nil_append] at heq
      exact absurd (hchars '!' (heq ▸ List.mem_cons_self)) (by decide)
    · cases heq
      exact isTagName_iff.2 ⟨hne, hchars⟩
  · intro h
    obtain ⟨hne, hchars⟩ := isTagName_iff.1 h
    exact ⟨['!'], name, .inr rfl, hne, hchars, rfl⟩

theorem isTagEntry_iff_of_head?_ne {entry : List Char} (h : entry.head? ≠ some '!') :
    IsTagEntry entry ↔ isTagName entry = true := by
  refine ⟨?_, isTagEntry_of_isTagName⟩
  rintro ⟨mark, name, rfl | rfl, hne, hchars, rfl⟩
  · exact isTagName_iff.2 ⟨hne, hchars⟩
  · exact absurd rfl h

namespace TagToken

theorem read_eq_error_iff {entry : List Char} {fault : RuleFault} :
    read entry = .error fault ↔ IsEntryFault entry fault := by
  constructor
  · intro h
    by_cases hhead : entry.head? = some '!'
    · obtain ⟨name, rfl⟩ := List.head?_eq_some_iff.1 hhead
      rw [read] at h
      split_ifs at h with hname hall
      · cases h
        refine .invalid fun hentry => ?_
        rw [isTagEntry_cons_mark_iff.1 hentry] at hname
        cases hname
      · cases h
        refine .negatedWildcard ?_
        rw [← String.toList_ofList (l := name), hall]
        rfl
    · rw [read_of_head?_ne hhead] at h
      split_ifs at h with hname
      cases h
      refine .invalid fun hentry => ?_
      rw [(isTagEntry_iff_of_head?_ne hhead).1 hentry] at hname
      cases hname
  · rintro (hentry | rfl)
    · by_cases hhead : entry.head? = some '!'
      · obtain ⟨name, rfl⟩ := List.head?_eq_some_iff.1 hhead
        rw [isTagEntry_cons_mark_iff, Bool.not_eq_true] at hentry
        rw [read, hentry]
        rfl
      · rw [isTagEntry_iff_of_head?_ne hhead, Bool.not_eq_true] at hentry
        rw [read_of_head?_ne hhead, hentry]
        rfl
    · decide

end TagToken

/-! ### Tag lists -/

theorem readTokens_eq_error_iff {tags : List Char} {fault : RuleFault} :
    readTokens tags = .error fault ↔ (AllBlank tags ∧ fault = .noTags) ∨
      (¬AllBlank tags ∧ ∃ fine entry rest, tagEntries tags = fine ++ entry :: rest ∧
        (∀ earlier ∈ fine, IsFineEntry earlier) ∧ IsEntryFault entry fault) := by
  by_cases hblank : AllBlank tags
  · rw [readTokens_of_allBlank hblank]
    simp [hblank, eq_comm]
  · rw [readTokens_of_not_allBlank hblank, mapM_eq_error_iff]
    simp only [TagToken.exists_read_eq_ok_iff, TagToken.read_eq_error_iff, hblank, false_and,
      false_or, not_false_eq_true, true_and]
    rfl

theorem exists_readTokens_iff_isFineEntry {tags : List Char} :
    (∃ tokens, readTokens tags = .ok tokens) ↔ ∀ entry ∈ tagEntries tags, IsFineEntry entry := by
  rw [exists_readTokens_eq_ok_iff, tagEntries, List.forall_mem_map]
  rfl

theorem forall_negative_iff {tags : List Char} {tokens : List TagToken}
    (h : readTokens tags = .ok tokens) :
    (∀ entry ∈ tagEntries tags, entry.head? = some '!') ↔
      ¬∃ token ∈ tokens, token.positive?.isSome = true := by
  rw [exists_positive_iff h, tagEntries, List.forall_mem_map]
  push Not
  rfl

theorem TagExpr.ofTokens_eq_error_iff {tokens : List TagToken} {fault : RuleFault} :
    TagExpr.ofTokens tokens = .error fault ↔
      fault = .noPositiveTag ∧ ¬∃ token ∈ tokens, token.positive?.isSome = true := by
  by_cases hsome : ∃ token ∈ tokens, token.positive?.isSome = true
  · rw [TagExpr.ofTokens_eq_ok_iff.2 ⟨hsome, rfl⟩]
    exact ⟨nofun, fun h => absurd hsome h.2⟩
  · rw [and_iff_left hsome]
    cases htags : TagExpr.ofTokens tokens with
    | ok e => exact absurd (TagExpr.ofTokens_eq_ok_iff.1 htags).1 hsome
    | error other =>
        rw [TagExpr.ofTokens] at htags
        split at htags
        case isFalse => cases htags
        case isTrue =>
          cases htags
          exact ⟨fun h => (Except.error.inj h).symm, fun h => h ▸ rfl⟩

/-! ### Lines -/

/-- What is wrong with a line that is neither blank nor a comment. The faults are in the order in
which a line is looked at, and each of them excludes those above it. -/
inductive HasFault (line : List Char) : RuleFault → Prop
  | noSeparator {kept : List Char} (hkept : IsUncommented (trim line) kept) (hcolon : ':' ∉ kept) :
      HasFault line .noSeparator
  | noRecipients {before after : List Char} (hhalves : HasHalves line before after)
      (hgap : ∀ c ∈ before, isGap c = true) : HasFault line .noRecipients
  | noTags {before after : List Char} (hhalves : HasHalves line before after)
      (hname : ∃ c ∈ before, isGap c = false) (hblank : AllBlank after) : HasFault line .noTags
  | entry {before after : List Char} {fault : RuleFault} {fine rest : List (List Char)}
      {entry : List Char} (hhalves : HasHalves line before after)
      (hname : ∃ c ∈ before, isGap c = false) (hblank : ¬AllBlank after)
      (hentries : tagEntries after = fine ++ entry :: rest)
      (hfine : ∀ earlier ∈ fine, IsFineEntry earlier) (hentry : IsEntryFault entry fault) :
      HasFault line fault
  | noPositiveTag {before after : List Char} (hhalves : HasHalves line before after)
      (hname : ∃ c ∈ before, isGap c = false)
      (hfine : ∀ entry ∈ tagEntries after, IsFineEntry entry)
      (hnegative : ∀ entry ∈ tagEntries after, entry.head? = some '!') :
      HasFault line .noPositiveTag

section

variable {line : List Char} (hblank : ¬IsBlankLine line) (hcomment : ¬IsCommentLine line)

include hblank hcomment

theorem hasFault_of_readRuleLine {fault : RuleFault} (h : readRuleLine line = .error fault) :
    HasFault line fault := by
  cases hsides : halves? (cutComment false (trim line)) with
  | none =>
      have hcolon := halves?_eq_none_iff.1 hsides
      rw [readRuleLine_of_no_colon hblank hcomment hcolon] at h
      cases h
      exact .noSeparator (isUncommented_iff.2 rfl) hcolon
  | some sides =>
      obtain ⟨before, after⟩ := sides
      obtain ⟨hkept, hbefore⟩ := halves?_eq_some_iff.1 hsides
      have hhalves : HasHalves line before after := hasHalves_iff.2 ⟨hkept, hbefore⟩
      rw [readRuleLine_of_halves hblank hcomment hkept hbefore] at h
      split at h
      case isTrue hnone =>
        cases h
        exact .noRecipients hhalves (readRecipients_eq_nil_iff.1 (List.isEmpty_iff.1 hnone))
      case isFalse hsome =>
        have hname : ∃ c ∈ before, isGap c = false :=
          exists_not_isGap_iff.2 fun hnil => hsome (List.isEmpty_iff.2 hnil)
        rcases bind_eq_error_iff.1 h with htokens | ⟨tokens, htokens, h⟩
        · rcases readTokens_eq_error_iff.1 htokens with ⟨hnone, rfl⟩ |
            ⟨hsome, fine, entry, rest, hentries, hfine, hentry⟩
          · exact .noTags hhalves hname hnone
          · exact .entry hhalves hname hsome hentries hfine hentry
        · rcases bind_eq_error_iff.1 h with htags | ⟨_, _, h⟩
          · obtain ⟨rfl, hnone⟩ := TagExpr.ofTokens_eq_error_iff.1 htags
            exact .noPositiveTag hhalves hname
              (exists_readTokens_iff_isFineEntry.1 ⟨tokens, htokens⟩)
              ((forall_negative_iff htokens).2 hnone)
          · cases h

theorem readRuleLine_of_hasHalves {before after : List Char} (hhalves : HasHalves line before after)
    (hname : ∃ c ∈ before, isGap c = false) :
    readRuleLine line = do
      let tokens ← readTokens after
      let tags ← TagExpr.ofTokens tokens
      return some (readRecipients before, tags) := by
  obtain ⟨hkept, hbefore⟩ := hasHalves_iff.1 hhalves
  rw [readRuleLine_of_halves hblank hcomment hkept hbefore,
    List.isEmpty_eq_false_iff.2 (exists_not_isGap_iff.1 hname)]
  rfl

theorem readRuleLine_of_hasFault {fault : RuleFault} (h : HasFault line fault) :
    readRuleLine line = .error fault := by
  cases h with
  | noSeparator hkept hcolon =>
      rw [isUncommented_iff.1 hkept] at hcolon
      exact readRuleLine_of_no_colon hblank hcomment hcolon
  | noRecipients hhalves hgap =>
      obtain ⟨hkept, hbefore⟩ := hasHalves_iff.1 hhalves
      rw [readRuleLine_of_halves hblank hcomment hkept hbefore, readRecipients_eq_nil_iff.2 hgap]
      rfl
  | noTags hhalves hname hnone =>
      rw [readRuleLine_of_hasHalves hblank hcomment hhalves hname, readTokens_of_allBlank hnone]
      rfl
  | entry hhalves hname hsome hentries hfine hentry =>
      have htokens := readTokens_eq_error_iff.2 (.inr ⟨hsome, _, _, _, hentries, hfine, hentry⟩)
      rw [readRuleLine_of_hasHalves hblank hcomment hhalves hname, htokens]
      rfl
  | noPositiveTag hhalves hname hfine hnegative =>
      obtain ⟨tokens, htokens⟩ := exists_readTokens_iff_isFineEntry.2 hfine
      have htags := TagExpr.ofTokens_eq_error_iff.2 ⟨rfl, (forall_negative_iff htokens).1 hnegative⟩
      rw [readRuleLine_of_hasHalves hblank hcomment hhalves hname, htokens]
      show (TagExpr.ofTokens tokens >>= fun tags => _) = _
      rw [htags]
      rfl

end

theorem readRuleLine_eq_error_iff {line : List Char} {fault : RuleFault} :
    readRuleLine line = .error fault ↔
      ¬IsBlankLine line ∧ ¬IsCommentLine line ∧ HasFault line fault := by
  constructor
  · intro h
    by_cases hnone : IsBlankLine line ∨ IsCommentLine line
    · rw [readRuleLine_of_no_rule hnone] at h
      cases h
    · rw [not_or] at hnone
      exact ⟨hnone.1, hnone.2, hasFault_of_readRuleLine hnone.1 hnone.2 h⟩
  · rintro ⟨hblank, hcomment, hfault⟩
    exact readRuleLine_of_hasFault hblank hcomment hfault

/-! ### Files -/

/-- A line that may stand in a file. -/
def IsFineLine (line : List Char) : Prop :=
  IsBlankLine line ∨ IsCommentLine line ∨ IsRuleLine line

/-- The error is about this line, and no line before it is at fault. All lines before it are counted,
whether they state rules or not, and the line is given as it is, with blanks and comment. -/
structure MalformedRule.Blames (e : MalformedRule) (earlier : List (List Char)) (line : List Char) :
    Prop where
  fine : ∀ other ∈ earlier, IsFineLine other
  not_blank : ¬IsBlankLine line
  not_comment : ¬IsCommentLine line
  fault : HasFault line e.fault
  number : e.line = earlier.length + 1
  content : e.content = String.ofList line

theorem readNumberedLine_eq_error_iff {line : List Char} {number : Nat} {e : MalformedRule} :
    readNumberedLine line number = .error e ↔
      readRuleLine line = .error e.fault ∧ e.line = number ∧ e.content = String.ofList line := by
  obtain ⟨errorLine, content, fault⟩ := e
  rw [readNumberedLine]
  rcases readRuleLine line with fault' | _ | ⟨recipients, tags⟩
  · rw [Except.error.injEq, Except.error.injEq, MalformedRule.mk.injEq]
    constructor
    · rintro ⟨rfl, rfl, rfl⟩
      exact ⟨rfl, rfl, rfl⟩
    · rintro ⟨rfl, rfl, rfl⟩
      exact ⟨rfl, rfl, rfl⟩
  all_goals
    apply iff_of_false
    · intro h
      cases h
    · rintro ⟨h, _⟩
      cases h

theorem MalformedRule.blames_iff {e : MalformedRule} {earlier : List (List Char)}
    {line : List Char} :
    e.Blames earlier line ↔
      (∀ p ∈ earlier.zipIdx 1, ∃ entry, readNumberedLine p.1 p.2 = .ok entry) ∧
        readNumberedLine line (1 + earlier.length) = .error e := by
  have hfine : (∀ p ∈ earlier.zipIdx 1, ∃ entry, readNumberedLine p.1 p.2 = .ok entry) ↔
      ∀ other ∈ earlier, IsFineLine other := by
    simp only [exists_readNumberedLine_eq_ok_iff]
    exact forall_mem_zipIdx_iff (p := IsFineLine)
  rw [hfine, readNumberedLine_eq_error_iff, readRuleLine_eq_error_iff, Nat.add_comm]
  constructor
  · rintro ⟨hearlier, hblank, hcomment, hfault, hnumber, hcontent⟩
    exact ⟨hearlier, ⟨hblank, hcomment, hfault⟩, hnumber, hcontent⟩
  · rintro ⟨hearlier, ⟨hblank, hcomment, hfault⟩, hnumber, hcontent⟩
    exact ⟨hearlier, hblank, hcomment, hfault, hnumber, hcontent⟩

theorem readRules_eq_error_iff {text : String} {e : MalformedRule} :
    readRules text = .error e ↔
      ∃ earlier line later, lines text.toList = earlier ++ line :: later ∧
        e.Blames earlier line := by
  have hread : readRules text = .error e ↔
      ((lines text.toList).zipIdx 1).mapM (fun p => readNumberedLine p.1 p.2) = .error e := by
    rw [readRules, bind_eq_error_iff, or_iff_left]
    rintro ⟨_, _, h⟩
    cases h
  rw [hread, mapM_zipIdx_eq_error_iff]
  simp only [MalformedRule.blames_iff]

/-- A file is refused for the first of its lines that is neither blank nor a comment nor a rule
line. The error has the number of the line, counted from one over all lines, its text as it is, and
the first of its faults, where an entry of the tag list is quoted. Whatever comes behind the line
does not matter. -/
theorem readRules_blames_first_faulty_line (text : String) (e : MalformedRule) :
    (readRules text = .error e ↔
      ∃ earlier line later, lines text.toList = earlier ++ line :: later ∧
        e.Blames earlier line) ∧
    (∀ entry, e.fault = .invalidTag entry →
      e.fault.reason = "invalid tag " ++ Text.quoted entry) ∧
    (readRules text = .error e → ∀ other : String,
      (lines other.toList).take e.line = (lines text.toList).take e.line →
        readRules other = .error e) := by
  refine ⟨readRules_eq_error_iff, fun entry hentry => by rw [hentry]; rfl, ?_⟩
  intro h other hsame
  obtain ⟨earlier, line, later, hlines, hblames⟩ := readRules_eq_error_iff.1 h
  refine readRules_eq_error_iff.2 ⟨earlier, line, (lines other.toList).drop e.line, ?_, hblames⟩
  have htake : (lines text.toList).take e.line = earlier ++ [line] := by
    rw [hlines, hblames.number, ← List.singleton_append, ← List.append_assoc]
    exact List.take_left' (by simp)
  calc lines other.toList
      = (lines other.toList).take e.line ++ (lines other.toList).drop e.line :=
        (List.take_append_drop _ _).symm
    _ = earlier ++ line :: (lines other.toList).drop e.line := by
        rw [hsame, htake, List.append_assoc, List.singleton_append]

/-- The fourth line has two faulty entries and an empty one, and the last line is faulty, too. -/
def faultyFile : String :=
  "# ops: all\n\nops@site: fan\n  hw@site: disk, !!fan , !all,, # note: no\r\nno colon"

/-- The same up to the fourth line. -/
def faultyFileAgain : String :=
  "# ops: all\n\nops@site: fan\n  hw@site: disk, !!fan , !all,, # note: no\r\nhw@site: fan\n:"

def faultyFileError : MalformedRule :=
  ⟨4, "  hw@site: disk, !!fan , !all,, # note: no", .invalidTag "!!fan"⟩

theorem readRules_blames_first_faulty_line_of_sample :
    readRules faultyFile = .error faultyFileError ∧
    (∃ earlier line later, lines faultyFile.toList = earlier ++ line :: later ∧
      faultyFileError.Blames earlier line) ∧
    faultyFileError.fault.reason = "invalid tag " ++ Text.quoted "!!fan" ∧
    (lines faultyFileAgain.toList).take 4 = (lines faultyFile.toList).take 4 ∧
    readRules faultyFileAgain = .error faultyFileError := by
  have hread : readRules faultyFile = .error faultyFileError := by decide +kernel
  have hsame : (lines faultyFileAgain.toList).take 4 = (lines faultyFile.toList).take 4 := by
    decide +kernel
  obtain ⟨hfirst, hreason, hbehind⟩ :=
    readRules_blames_first_faulty_line faultyFile faultyFileError
  exact ⟨hread, hfirst.1 hread, hreason "!!fan" rfl, hsame, hbehind hread faultyFileAgain hsame⟩

end ReportRouting
