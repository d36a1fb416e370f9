import ReportRouting.Proofs.Comments
import ReportRouting.Proofs.TagList

/-!
The lines of a rule file.

`IsRuleLine` describes the lines that state a rule as one would explain them: by where the comment
starts, by what stands on the two sides of the first colon, and by the entries between commas. It
mentions no step of the reader, and the reader finds a rule on these lines and on no others.
-/

namespace ReportRouting

open Text

/-! ### What a line may be -/

def IsBlankLine (line : List Char) : Prop :=
  trim line = []

/-- The first character that is not blank is a `#`. -/
def IsCommentLine (line : List Char) : Prop :=
  line.find? (!isBlank ·) = some '#'

/-- What stands on the two sides of the first colon, without the comment. -/
def HasHalves (line before after : List Char) : Prop :=
  IsUncommented (trim line) (before ++ ':' :: after) ∧ ':' ∉ before

/-- Recipients, a colon and tags. -/
def IsRuleLine (line : List Char) : Prop :=
  ∃ kept before after, IsUncommented (trim line) kept ∧
    kept = before ++ ':' :: after ∧ ':' ∉ before ∧
    (∃ c ∈ before, c ≠ ',' ∧ isBlank c = false) ∧
    (∀ piece ∈ after.splitOn ',', IsTagEntry (trim piece) ∧ trim piece ≠ "!all".toList) ∧
    ∃ piece ∈ after.splitOn ',', (trim piece).head? ≠ some '!'

/-- A comment may have the shape of a rule, and then it states none. -/
def StatesRule (line : List Char) : Prop :=
  IsRuleLine line ∧ ¬IsCommentLine line

/-! ### The two sides of a colon -/

theorem halves?_eq_none_iff {s : List Char} : halves? s = none ↔ ':' ∉ s := by
  rw [halves?]
  split
  case h_1 h =>
    rw [List.dropWhile_eq_nil_iff] at h
    refine ⟨fun _ hmem => ?_, fun _ => rfl⟩
    exact absurd (h ':' hmem) (by decide)
  case h_2 c tags h =>
    constructor
    · intro hnone
      cases hnone
    · intro hmem
      have hnil : s.dropWhile (· != ':') = [] :=
        List.dropWhile_eq_nil_iff.2 fun d hd => bne_iff_ne.2 fun hcolon => hmem (hcolon ▸ hd)
      rw [hnil] at h
      cases h

theorem halves?_eq_some_iff {s before after : List Char} :
    halves? s = some (before, after) ↔ s = before ++ ':' :: after ∧ ':' ∉ before := by
  constructor
  · intro h
    rw [halves?] at h
    split at h
    case h_1 => cases h
    case h_2 c tags hdrop =>
      obtain ⟨rfl, rfl⟩ := Prod.mk.inj (Option.some.inj h)
      have hc : c = ':' := by
        have hstop := List.head?_dropWhile_not (· != ':') s
        rw [hdrop] at hstop
        exact bne_eq_false_iff_eq.1 hstop
      subst hc
      refine ⟨?_, fun hmem => ?_⟩
      · rw [← hdrop, List.takeWhile_append_dropWhile]
      · exact absurd (List.mem_takeWhile_imp hmem) (by decide)
  · rintro ⟨rfl, hbefore⟩
    have hpos : ∀ c ∈ before, (c != ':') = true := fun c hc =>
      bne_iff_ne.2 fun hcolon => hbefore (hcolon ▸ hc)
    rw [halves?, List.dropWhile_append_of_pos hpos, List.takeWhile_append_of_pos hpos]
    simp

theorem hasHalves_iff {line before after : List Char} :
    HasHalves line before after ↔
      cutComment false (trim line) = before ++ ':' :: after ∧ ':' ∉ before := by
  rw [HasHalves, isUncommented_iff, eq_comm]

/-! ### Recipients -/

/-- Splitting loses the separators and nothing else. -/
theorem flatten_splitOnP (p : Char → Bool) (s : List Char) :
    (s.splitOnP p).flatten = s.filter (!p ·) := by
  induction s with
  | nil => rfl
  | cons c s ih =>
      rw [List.splitOnP_cons_eq_if_modifyHead, List.filter_cons, ← ih]
      obtain ⟨piece, rest, h⟩ := List.exists_cons_of_ne_nil (List.splitOnP_ne_nil p s)
      cases p c <;> simp [h]

/-- A character that parts recipients. -/
def isGap (c : Char) : Bool :=
  c == ',' || isBlank c

theorem readRecipients_eq (s : List Char) :
    readRecipients s = ((s.splitOnP isGap).filter (!·.isEmpty)).map String.ofList :=
  rfl

theorem readRecipients_eq_nil_iff {s : List Char} :
    readRecipients s = [] ↔ ∀ c ∈ s, isGap c = true := by
  have hflatten := flatten_splitOnP isGap s
  rw [readRecipients_eq, List.map_eq_nil_iff, List.filter_eq_nil_iff]
  constructor
  · intro h
    have hnil : (s.splitOnP isGap).flatten = [] :=
      List.flatten_eq_nil_iff.2 fun piece hpiece => by simpa using h piece hpiece
    rw [hnil, eq_comm, List.filter_eq_nil_iff] at hflatten
    exact fun c hc => by simpa using hflatten c hc
  · intro h piece hpiece
    have hnil : s.filter (!isGap ·) = [] :=
      List.filter_eq_nil_iff.2 fun c hc => by simpa using h c hc
    rw [hnil, List.flatten_eq_nil_iff] at hflatten
    simp [hflatten piece hpiece]

theorem exists_not_isGap_iff {s : List Char} :
    (∃ c ∈ s, isGap c = false) ↔ readRecipients s ≠ [] := by
  rw [Ne, readRecipients_eq_nil_iff]
  simp

theorem readRecipients_append_of_gap {gap : List Char} (hgap : ∀ c ∈ gap, isGap c = true)
    (s : List Char) : readRecipients (gap ++ s) = readRecipients s := by
  induction gap with
  | nil => rfl
  | cons c gap ih =>
      obtain ⟨hc, hgap⟩ := List.forall_mem_cons.1 hgap
      have hsplit : (c :: (gap ++ s)).splitOnP isGap = [] :: (gap ++ s).splitOnP isGap := by
        rw [List.splitOnP_cons_eq_if_modifyHead, if_pos hc]
      rw [← ih hgap, List.cons_append, readRecipients_eq, hsplit, readRecipients_eq]
      rfl

theorem readRecipients_of_no_gap {name : List Char} (hne : name ≠ [])
    (hname : ∀ c ∈ name, isGap c = false) : readRecipients name = [String.ofList name] := by
  have hkept : name.isEmpty = false := List.isEmpty_eq_false_iff.2 hne
  rw [readRecipients_eq, List.splitOnP_eq_singleton hname]
  simp [hkept]

/-- A recipient goes up to the next comma or blank. -/
theorem readRecipients_name_append {name rest : List Char} (hne : name ≠ [])
    (hname : ∀ c ∈ name, isGap c = false) (hend : ∀ c ∈ rest.head?, isGap c = true) :
    readRecipients (name ++ rest) = String.ofList name :: readRecipients rest := by
  have hone := readRecipients_of_no_gap hne hname
  cases rest with
  | nil =>
      rw [List.append_nil, hone]
      rfl
  | cons c rest =>
      have hc : isGap c = true := hend c rfl
      have hrest : readRecipients (c :: rest) = readRecipients rest :=
        readRecipients_append_of_gap (List.forall_mem_singleton.2 hc) rest
      rw [readRecipients_eq] at hone
      rw [hrest, readRecipients_eq, List.splitOnP_append_cons _ _ hc, List.filter_append,
        List.map_append, hone, ← readRecipients_eq, List.singleton_append]

/-! ### Lines -/

theorem readRuleLine_of_no_rule {line : List Char} (h : IsBlankLine line ∨ IsCommentLine line) :
    readRuleLine line = .ok none := by
  rw [readRuleLine]
  rcases h with h | h
  · rw [IsBlankLine] at h
    rw [h]
    rfl
  · rw [IsCommentLine, ← head?_trim] at h
    rw [h, beq_self_eq_true, Bool.or_true, if_pos rfl]

section

variable {line : List Char} (hblank : ¬IsBlankLine line) (hcomment : ¬IsCommentLine line)

include hblank hcomment

theorem readRuleLine_eq_match :
    readRuleLine line =
      match halves? (cutComment false (trim line)) with
      | none => .error .noSeparator
      | some (before, after) =>
        if (readRecipients before).isEmpty then .error .noRecipients
        else do
          let tokens ← readTokens after
          let tags ← TagExpr.ofTokens tokens
          return some (readRecipients before, tags) := by
  rw [IsCommentLine, ← head?_trim] at hcomment
  have hguard : ((trim line).isEmpty || (trim line).head? == some '#') = false := by
    rw [Bool.or_eq_false_iff]
    exact ⟨List.isEmpty_eq_false_iff.2 hblank, beq_false_of_ne hcomment⟩
  rw [readRuleLine, hguard, cutComment_eq_of_head?_ne hcomment]
  rfl

theorem readRuleLine_of_no_colon (h : ':' ∉ cutComment false (trim line)) :
    readRuleLine line = .error .noSeparator := by
  rw [readRuleLine_eq_match hblank hcomment, halves?_eq_none_iff.2 h]

theorem readRuleLine_of_halves {before after : List Char}
    (h : cutComment false (trim line) = before ++ ':' :: after) (hbefore : ':' ∉ before) :
    readRuleLine line =
      if (readRecipients before).isEmpty then .error .noRecipients
      else do
        let tokens ← readTokens after
        let tags ← TagExpr.ofTokens tokens
        return some (readRecipients before, tags) := by
  rw [readRuleLine_eq_match hblank hcomment, halves?_eq_some_iff.2 ⟨h, hbefore⟩]

end

/-- What a line that states a rule has been read from. -/
theorem readRuleLine_eq_some_iff {line : List Char} {recipients : List String} {tags : TagExpr} :
    readRuleLine line = .ok (some (recipients, tags)) ↔
      ¬IsBlankLine line ∧ ¬IsCommentLine line ∧
        ∃ before after tokens, cutComment false (trim line) = before ++ ':' :: after ∧
          ':' ∉ before ∧ readRecipients before = recipients ∧ recipients ≠ [] ∧
          readTokens after = .ok tokens ∧ TagExpr.ofTokens tokens = .ok tags := by
  constructor
  · intro h
    by_cases hnone : IsBlankLine line ∨ IsCommentLine line
    · rw [readRuleLine_of_no_rule hnone] at h
      cases h
    rw [not_or] at hnone
    obtain ⟨hblank, hcomment⟩ := hnone
    refine ⟨hblank, hcomment, ?_⟩
    cases hhalves : halves? (cutComment false (trim line)) with
    | none =>
        rw [readRuleLine_of_no_colon hblank hcomment (halves?_eq_none_iff.1 hhalves)] at h
        cases h
    | some halves =>
        obtain ⟨before, after⟩ := halves
        obtain ⟨hkept, hbefore⟩ := halves?_eq_some_iff.1 hhalves
        rw [readRuleLine_of_halves hblank hcomment hkept hbefore] at h
        split at h
        case isTrue => cases h
        case isFalse hrecipients =>
          obtain ⟨tokens, htokens, h⟩ := bind_eq_ok_iff.1 h
          obtain ⟨tags', htags, h⟩ := bind_eq_ok_iff.1 h
          cases h
          exact ⟨before, after, tokens, hkept, hbefore, rfl,
            fun hnil => hrecipients (List.isEmpty_iff.2 hnil), htokens, htags⟩
  · rintro ⟨hblank, hcomment, before, after, tokens, hkept, hbefore, rfl, hrecipients, htokens,
      htags⟩
    rw [readRuleLine_of_halves hblank hcomment hkept hbefore, htokens,
      List.isEmpty_eq_false_iff.2 hrecipients]
    show (TagExpr.ofTokens tokens >>= fun tags => .ok (some (readRecipients before, tags))) = _
    rw [htags]
    rfl

/-- The reader accepts the lines that state a rule. -/
theorem exists_readRuleLine_eq_some_iff {line : List Char} :
    (∃ stated, readRuleLine line = .ok (some stated)) ↔ StatesRule line := by
  have hrecipients : ∀ before, readRecipients before ≠ [] ↔
      ∃ c ∈ before, c ≠ ',' ∧ isBlank c = false := by
    intro before
    rw [← exists_not_isGap_iff]
    simp [isGap]
  constructor
  · rintro ⟨⟨recipients, tags⟩, h⟩
    obtain ⟨_, hcomment, before, after, tokens, hkept, hbefore, rfl, hne, htokens, htags⟩ :=
      readRuleLine_eq_some_iff.1 h
    have hpositive := (TagExpr.ofTokens_eq_ok_iff.1 htags).1
    refine ⟨⟨_, before, after, isUncommented_iff.2 rfl, hkept, hbefore, ?_, ?_, ?_⟩, hcomment⟩
    · exact (hrecipients before).1 hne
    · exact exists_readTokens_eq_ok_iff.1 ⟨tokens, htokens⟩
    · exact (exists_positive_iff htokens).1 hpositive
  · rintro ⟨⟨kept, before, after, huncommented, hkept, hbefore, hne, hpieces, hpositive⟩,
      hcomment⟩
    rw [isUncommented_iff.1 huncommented] at hkept
    -- A blank line has no colon, so it is not excluded by a hypothesis.
    have hblank : ¬IsBlankLine line := by
      intro hblank
      rw [IsBlankLine] at hblank
      rw [hblank, cutComment_nil] at hkept
      cases before <;> cases hkept
    obtain ⟨tokens, htokens⟩ := exists_readTokens_eq_ok_iff.2 hpieces
    have htags := TagExpr.ofTokens_eq_ok_iff.2 ⟨(exists_positive_iff htokens).2 hpositive, rfl⟩
    exact ⟨_, readRuleLine_eq_some_iff.2 ⟨hblank, hcomment, before, after, tokens, hkept, hbefore,
      rfl, (hrecipients before).2 hne, htokens, htags⟩⟩

theorem readRuleLine_eq_none_iff {line : List Char} :
    readRuleLine line = .ok none ↔ IsBlankLine line ∨ IsCommentLine line := by
  refine ⟨fun h => ?_, readRuleLine_of_no_rule⟩
  by_contra hnone
  rw [not_or] at hnone
  obtain ⟨hblank, hcomment⟩ := hnone
  rw [readRuleLine_eq_match hblank hcomment] at h
  split at h
  case h_1 => cases h
  case h_2 =>
    split at h
    · cases h
    · obtain ⟨_, _, h⟩ := bind_eq_ok_iff.1 h
      obtain ⟨_, _, h⟩ := bind_eq_ok_iff.1 h
      cases h

instance : DecidablePred StatesRule := fun line =>
  decidable_of_iff ((readRuleLine line).toOption.join.isSome = true) <| by
    rw [← exists_readRuleLine_eq_some_iff]
    rcases readRuleLine line with _ | _ | _ <;> simp [Except.toOption]

end ReportRouting
