import ReportRouting.Proofs.FirstFault
import ReportRouting.Proofs.Trimming
import ReportRouting.Rule.File

/-!
The tags of a rule, as entries between commas.

An entry that can be read is read as the only token that is written like it, so reading a list
gives the tokens whose texts are the trimmed pieces of the list, and there is an expression if one
of them is positive.
-/

namespace ReportRouting

open Text

/-- One `!` at most, and a name behind it. -/
def IsTagEntry (piece : List Char) : Prop :=
  ∃ mark name, (mark = [] ∨ mark = ['!']) ∧ name ≠ [] ∧ (∀ c ∈ name, isTagChar c = true) ∧
    piece = mark ++ name

theorem isTagName_iff {s : List Char} :
    isTagName s = true ↔ s ≠ [] ∧ ∀ c ∈ s, isTagChar c = true := by
  rw [isTagName, Bool.and_eq_true, List.all_eq_true, Bool.not_eq_true', List.isEmpty_eq_false_iff]

theorem isTagName_wildcardTag : isTagName wildcardTag.toList = true := by
  decide

namespace TagToken

/-- An entry as it is written. -/
def text : TagToken → List Char
  | tag name => name.toList
  | negated name => '!' :: name.toList
  | wildcard => wildcardTag.toList

/-- Names are names of tags, and the wildcard is not among them. -/
def IsProper : TagToken → Prop
  | tag name => isTagName name.toList = true ∧ name ≠ wildcardTag
  | negated name => isTagName name.toList = true ∧ name ≠ wildcardTag
  | wildcard => True

theorem read_of_head?_ne {piece : List Char} (h : piece.head? ≠ some '!') :
    read piece =
      if !isTagName piece then .error (.invalidTag (String.ofList piece))
      else if String.ofList piece = wildcardTag then .ok .wildcard
      else .ok (.tag (String.ofList piece)) := by
  rw [read]
  intro name hname
  exact h (by rw [hname]; rfl)

theorem head?_ne_of_isTagName {name : List Char} (h : isTagName name = true) :
    name.head? ≠ some '!' := by
  intro hhead
  have hchar := (isTagName_iff.1 h).2 '!' (List.mem_of_head? hhead)
  exact absurd hchar (by decide)

/-- Reading undoes writing, and accepts nothing that is not written so. -/
theorem read_eq_ok_iff {piece : List Char} {token : TagToken} :
    read piece = .ok token ↔ token.IsProper ∧ token.text = piece := by
  constructor
  · intro h
    by_cases hhead : piece.head? = some '!'
    · obtain ⟨name, rfl⟩ := List.head?_eq_some_iff.1 hhead
      rw [read] at h
      split_ifs at h with hname hall
      cases h
      rw [Bool.not_eq_true', Bool.not_eq_false] at hname
      exact ⟨⟨by rwa [String.toList_ofList], hall⟩, by rw [text, String.toList_ofList]⟩
    · rw [read_of_head?_ne hhead] at h
      split_ifs at h with hname hall
      · cases h
        exact ⟨trivial, by rw [text, ← hall, String.toList_ofList]⟩
      · cases h
        rw [Bool.not_eq_true', Bool.not_eq_false] at hname
        exact ⟨⟨by rwa [String.toList_ofList], hall⟩, String.toList_ofList⟩
  · rintro ⟨hproper, rfl⟩
    cases token with
    | tag name =>
        obtain ⟨hname, hall⟩ := hproper
        rw [text, read_of_head?_ne (head?_ne_of_isTagName hname), hname, String.ofList_toList,
          if_neg hall]
        rfl
    | negated name =>
        obtain ⟨hname, hall⟩ := hproper
        rw [text, read, hname, String.ofList_toList, if_neg hall]
        rfl
    | wildcard => decide

/-- An entry is positive if no `!` stands in front of it. -/
theorem isSome_positive?_iff {token : TagToken} (h : token.IsProper) :
    token.positive?.isSome = true ↔ token.text.head? ≠ some '!' := by
  cases token with
  | tag name => exact ⟨fun _ => head?_ne_of_isTagName h.1, fun _ => rfl⟩
  | negated name => exact ⟨nofun, fun hhead => absurd rfl hhead⟩
  | wildcard => decide

theorem exists_read_eq_ok_iff {piece : List Char} :
    (∃ token, read piece = .ok token) ↔ IsTagEntry piece ∧ piece ≠ "!all".toList := by
  simp only [read_eq_ok_iff]
  constructor
  · rintro ⟨token, hproper, rfl⟩
    cases token with
    | tag name =>
        obtain ⟨hname, _⟩ := hproper
        obtain ⟨hne, hchars⟩ := isTagName_iff.1 hname
        refine ⟨⟨[], name.toList, .inl rfl, hne, hchars, rfl⟩, fun hall => ?_⟩
        exact head?_ne_of_isTagName hname (by rw [← text, hall]; rfl)
    | negated name =>
        obtain ⟨hname, hall⟩ := hproper
        obtain ⟨hne, hchars⟩ := isTagName_iff.1 hname
        refine ⟨⟨['!'], name.toList, .inr rfl, hne, hchars, rfl⟩, fun htext => hall ?_⟩
        exact String.toList_inj.1 (List.cons.inj htext).2
    | wildcard =>
        obtain ⟨hne, hchars⟩ := isTagName_iff.1 isTagName_wildcardTag
        exact ⟨⟨[], wildcardTag.toList, .inl rfl, hne, hchars, rfl⟩, by decide⟩
  · rintro ⟨⟨mark, name, hmark, hne, hchars, rfl⟩, hall⟩
    have hname : isTagName (String.ofList name).toList = true := by
      rw [String.toList_ofList]
      exact isTagName_iff.2 ⟨hne, hchars⟩
    by_cases hwildcard : String.ofList name = wildcardTag
    · have htext : name = "all".toList := by rw [← String.toList_ofList (l := name), hwildcard]; rfl
      rcases hmark with rfl | rfl
      · exact ⟨.wildcard, trivial, htext.symm⟩
      · exact absurd (by rw [htext]; rfl) hall
    · rcases hmark with rfl | rfl
      · exact ⟨.tag (String.ofList name), ⟨hname, hwildcard⟩, String.toList_ofList⟩
      · exact ⟨.negated (String.ofList name), ⟨hname, hwildcard⟩, by
          rw [text, String.toList_ofList]; rfl⟩

end TagToken

theorem mapM_read_eq_ok_iff {pieces : List (List Char)} {tokens : List TagToken} :
    pieces.mapM TagToken.read = .ok tokens ↔
      (∀ token ∈ tokens, token.IsProper) ∧ tokens.map TagToken.text = pieces := by
  rw [mapM_eq_ok_iff]
  constructor
  · intro h
    induction h with
    | nil => exact ⟨fun _ htoken => absurd htoken List.not_mem_nil, rfl⟩
    | cons hread _ ih =>
        obtain ⟨hproper, htext⟩ := TagToken.read_eq_ok_iff.1 hread
        exact ⟨List.forall_mem_cons.2 ⟨hproper, ih.1⟩, by rw [List.map_cons, htext, ih.2]⟩
  · rintro ⟨hproper, rfl⟩
    rw [List.forall₂_map_left_iff, List.forall₂_same]
    exact fun token htoken => TagToken.read_eq_ok_iff.2 ⟨hproper token htoken, rfl⟩

/-- What stands between the commas of a list, without the blanks around it. -/
def tagEntries (tags : List Char) : List (List Char) :=
  (tags.splitOn ',').map trim

theorem readTokens_of_allBlank {tags : List Char} (h : AllBlank tags) :
    readTokens tags = .error .noTags := by
  rw [readTokens, trim_eq_nil_iff.2 h]
  rfl

theorem readTokens_of_not_allBlank {tags : List Char} (h : ¬AllBlank tags) :
    readTokens tags = (tagEntries tags).mapM TagToken.read := by
  have hne : (trim tags).isEmpty = false :=
    List.isEmpty_eq_false_iff.2 fun hnil => h (trim_eq_nil_iff.1 hnil)
  rw [tagEntries, ← map_trim_splitOn_trim rfl, List.mapM_map, readTokens, hne]
  rfl

/-- A blank list has one entry, and it is empty. -/
theorem tagEntries_of_allBlank {tags : List Char} (h : AllBlank tags) : tagEntries tags = [[]] := by
  rw [tagEntries, ← map_trim_splitOn_trim rfl, trim_eq_nil_iff.2 h]
  rfl

/-- The entries are what stands between the commas, without the blanks around it. -/
theorem readTokens_eq_ok_iff {tags : List Char} {tokens : List TagToken} :
    readTokens tags = .ok tokens ↔
      (∀ token ∈ tokens, token.IsProper) ∧ tokens.map TagToken.text = tagEntries tags := by
  rw [← mapM_read_eq_ok_iff]
  by_cases hblank : AllBlank tags
  · rw [readTokens_of_allBlank hblank, tagEntries_of_allBlank hblank]
    exact ⟨nofun, nofun⟩
  · rw [readTokens_of_not_allBlank hblank]

theorem exists_readTokens_eq_ok_iff {tags : List Char} :
    (∃ tokens, readTokens tags = .ok tokens) ↔
      ∀ piece ∈ tags.splitOn ',', IsTagEntry (trim piece) ∧ trim piece ≠ "!all".toList := by
  simp only [readTokens_eq_ok_iff, ← mapM_read_eq_ok_iff]
  rw [exists_mapM_eq_ok_iff, tagEntries, List.forall_mem_map]
  simp only [TagToken.exists_read_eq_ok_iff]

theorem exists_positive_iff {tags : List Char} {tokens : List TagToken}
    (h : readTokens tags = .ok tokens) :
    (∃ token ∈ tokens, token.positive?.isSome = true) ↔
      ∃ piece ∈ tags.splitOn ',', (trim piece).head? ≠ some '!' := by
  obtain ⟨hproper, htext⟩ := readTokens_eq_ok_iff.1 h
  calc (∃ token ∈ tokens, token.positive?.isSome = true)
      ↔ ∃ token ∈ tokens, token.text.head? ≠ some '!' :=
        exists_congr fun token =>
          and_congr_right fun htoken => TagToken.isSome_positive?_iff (hproper token htoken)
    _ ↔ ∃ piece ∈ tokens.map TagToken.text, piece.head? ≠ some '!' := by
        simp only [List.mem_map, exists_exists_and_eq_and]
    _ ↔ ∃ piece ∈ tags.splitOn ',', (trim piece).head? ≠ some '!' := by
        simp only [htext, tagEntries, List.mem_map, exists_exists_and_eq_and]

theorem TagExpr.ofTokens_eq_ok_iff {tokens : List TagToken} {e : TagExpr} :
    TagExpr.ofTokens tokens = .ok e ↔
      (∃ token ∈ tokens, token.positive?.isSome = true) ∧
        e = ⟨(tokens.filterMap TagToken.positive?).eraseDups,
          (tokens.filterMap TagToken.negative?).eraseDups⟩ := by
  have hempty : (tokens.filterMap TagToken.positive?).eraseDups.isEmpty = true ↔
      ¬∃ token ∈ tokens, token.positive?.isSome = true := by
    rw [List.isEmpty_iff, List.eq_nil_iff_forall_not_mem]
    simp only [List.mem_eraseDups, List.mem_filterMap, Option.isSome_iff_exists]
    push Not
    exact ⟨fun h token htoken name => fun hname => h name token htoken hname,
      fun h name token htoken hname => h token htoken name hname⟩
  rw [TagExpr.ofTokens]
  split
  case isTrue h =>
    constructor
    · intro h'
      cases h'
    · rintro ⟨hsome, _⟩
      exact absurd hsome (hempty.1 h)
  case isFalse h =>
    rw [hempty, not_not] at h
    rw [and_iff_right h, Except.ok.injEq, eq_comm]

end ReportRouting
