import ReportRouting.Proofs.StatedRule

/-!
Tags written down and read again.

An expression that a file can state has one entry for each of its tags, and these are the entries
that are read from the text that displays it.
-/

namespace ReportRouting

open Text

/-! ### Blanks and the characters of tags -/

/-- The code points of the blanks. -/
def blankPoints : List Nat :=
  [0x09, 0x0A, 0x0B, 0x0C, 0x0D, 0x20, 0x85, 0xA0, 0x1680, 0x2000, 0x2001, 0x2002, 0x2003, 0x2004,
    0x2005, 0x2006, 0x2007, 0x2008, 0x2009, 0x200A, 0x2028, 0x2029, 0x202F, 0x205F, 0x3000]

theorem toNat_mem_blankPoints {c : Char} (h : isBlank c = true) : c.toNat ∈ blankPoints := by
  simp only [isBlank, Bool.or_eq_true, Bool.and_eq_true, beq_iff_eq, decide_eq_true_eq] at h
  simp only [blankPoints, List.mem_cons, List.not_mem_nil, or_false]
  omega

theorem isBlank_of_isTagChar {c : Char} (h : isTagChar c = true) : isBlank c = false := by
  -- There are few blanks, so each of them is looked up in the table of word characters.
  have hpoints : ∀ n ∈ blankPoints, isTagChar (Char.ofNat n) = false := by decide +kernel
  by_contra hblank
  rw [Bool.not_eq_false] at hblank
  have hfalse := hpoints c.toNat (toNat_mem_blankPoints hblank)
  rw [Char.ofNat_toNat, h] at hfalse
  cases hfalse

/-! ### Entries and expressions -/

namespace TagToken

/-- The entry that asks for a tag. -/
def ofPositive (name : String) : TagToken :=
  if name = wildcardTag then wildcard else tag name

@[simp] theorem positive?_ofPositive (name : String) : (ofPositive name).positive? = some name := by
  rw [ofPositive]
  split
  case isTrue h => rw [h]; rfl
  case isFalse => rfl

@[simp] theorem negative?_ofPositive (name : String) : (ofPositive name).negative? = none := by
  rw [ofPositive]
  split <;> rfl

@[simp] theorem text_ofPositive (name : String) : (ofPositive name).text = name.toList := by
  rw [ofPositive]
  split
  case isTrue h => rw [h]; rfl
  case isFalse => rfl

@[simp] theorem positive?_negated (name : String) : (negated name).positive? = none := rfl

@[simp] theorem negative?_negated (name : String) : (negated name).negative? = some name := rfl

@[simp] theorem text_negated (name : String) : (negated name).text = '!' :: name.toList := rfl

theorem isProper_ofPositive {name : String} (h : isTagName name.toList = true) :
    (ofPositive name).IsProper := by
  rw [ofPositive]
  split
  case isTrue => trivial
  case isFalse hname => exact ⟨h, hname⟩

theorem mem_text {token : TagToken} (h : token.IsProper) :
    ∀ c ∈ token.text, c = '!' ∨ isTagChar c = true := by
  intro c hc
  cases token with
  | tag name => exact .inr ((isTagName_iff.1 h.1).2 c hc)
  | negated name =>
      rcases List.mem_cons.1 hc with hc | hc
      · exact .inl hc
      · exact .inr ((isTagName_iff.1 h.1).2 c hc)
  | wildcard => exact .inr ((isTagName_iff.1 isTagName_wildcardTag).2 c hc)

theorem isWord_text {token : TagToken} (h : token.IsProper) : IsWord token.text := by
  constructor
  · cases token with
    | tag name => exact (isTagName_iff.1 h.1).1
    | negated name => exact List.cons_ne_nil _ _
    | wildcard => decide
  · intro c hc
    rcases mem_text h c hc with rfl | hc
    · rfl
    · exact isBlank_of_isTagChar hc

/-- No separator and no mark of a comment is part of an entry. -/
theorem not_mem_text {token : TagToken} (h : token.IsProper) {c : Char}
    (hc : c = ',' ∨ c = '#') : c ∉ token.text := by
  intro hmem
  rcases mem_text h c hmem with hmark | hchar
  · rcases hc with rfl | rfl <;> cases hmark
  · rcases hc with rfl | rfl <;> exact absurd hchar (by decide)

end TagToken

namespace TagExpr

/-- The entries that the expression is written with. -/
def tokens (e : TagExpr) : List TagToken :=
  e.positive.map TagToken.ofPositive ++ e.negative.map TagToken.negated

theorem toList_display (e : TagExpr) :
    e.display.toList = spaced (e.tokens.map TagToken.text) := by
  rw [display, String.toList_intercalate, spaced]
  congr 1
  simp [tokens, Function.comp_def]

variable {e : TagExpr} (h : e.IsStated)

include h

theorem isProper_of_mem_tokens : ∀ token ∈ e.tokens, token.IsProper := by
  intro token htoken
  rcases List.mem_append.1 htoken with htoken | htoken
  · obtain ⟨name, hname, rfl⟩ := List.mem_map.1 htoken
    exact TagToken.isProper_ofPositive (h.isTagName_positive name hname)
  · obtain ⟨name, hname, rfl⟩ := List.mem_map.1 htoken
    exact ⟨h.isTagName_negative name hname, fun hall => h.wildcard_not_mem (hall ▸ hname)⟩

theorem tokens_ne_nil : e.tokens ≠ [] := by
  rw [tokens]
  simpa using fun hnil => absurd hnil h.positive_ne_nil

theorem ofTokens_tokens : ofTokens e.tokens = .ok e := by
  have hpositive : e.tokens.filterMap TagToken.positive? = e.positive := by
    simp [tokens, List.filterMap_map, Function.comp_def]
  have hnegative : e.tokens.filterMap TagToken.negative? = e.negative := by
    simp [tokens, List.filterMap_map, Function.comp_def]
  rw [ofTokens_eq_ok_iff, hpositive, hnegative, eraseDups_of_nodup h.nodup_positive,
    eraseDups_of_nodup h.nodup_negative]
  obtain ⟨name, names, hne⟩ := List.exists_cons_of_ne_nil h.positive_ne_nil
  refine ⟨⟨TagToken.ofPositive name, ?_, by simp⟩, rfl⟩
  simp [tokens, hne]

theorem readTokens_display : readTokens (' ' :: e.display.toList) = .ok e.tokens := by
  have hproper := isProper_of_mem_tokens h
  have hwords : ∀ w ∈ e.tokens.map TagToken.text, IsWord w ∧ ',' ∉ w := by
    rw [List.forall_mem_map]
    intro token htoken
    have htoken := hproper token htoken
    exact ⟨TagToken.isWord_text htoken, TagToken.not_mem_text htoken (.inl rfl)⟩
  rw [readTokens_eq_ok_iff, toList_display]
  refine ⟨hproper, (map_trim_splitOn_cons_spaced ?_ hwords).symm⟩
  simpa using tokens_ne_nil h

end TagExpr

end ReportRouting
