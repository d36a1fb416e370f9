import ReportRouting.Text.Digits
import ReportRouting.Text.Quoted

/-!
Quoted texts, read again.

A reader of a quoted text goes through it once and knows at every character where it is: in the
text itself, behind a backslash, or among the digits of a code point. It stops at the first quote
of the text itself, so a quoted text is read back whatever stands behind it, and no two texts look
the same in quotes. All that is seen of a quoted text are seen characters.
-/

namespace ReportRouting.Text

/-! ### Reading -/

/-- Where a reader is between the quotes. -/
inductive QuotePlace where
  | text
  /-- Behind a backslash. -/
  | escape
  /-- Before the brace of a code point. -/
  | brace
  /-- Among the digits of a code point, with the number so far. -/
  | codePoint (n : Nat)

/-- The character that a character behind a backslash stands for. -/
def unescaped? (c : Char) : Option Char :=
  if c = '"' ∨ c = '\\' then some c
  else if c = 'n' then some '\n'
  else if c = 'r' then some '\r'
  else if c = 't' then some '\t'
  else if c = '0' then some '\x00'
  else none

/-- The text up to the closing quote, behind the characters that are there, latest first, and the
rest behind the quote. -/
def takeInQuotes? (done : List Char) : QuotePlace → List Char → Option (List Char × List Char)
  | _, [] => none
  | .text, c :: rest =>
    if c = '"' then some (done.reverse, rest)
    else if c = '\\' then takeInQuotes? done .escape rest
    else takeInQuotes? (c :: done) .text rest
  | .escape, c :: rest =>
    if c = 'u' then takeInQuotes? done .brace rest
    else match unescaped? c with
      | some d => takeInQuotes? (d :: done) .text rest
      | none => none
  | .brace, c :: rest => if c = '\x7b' then takeInQuotes? done (.codePoint 0) rest else none
  | .codePoint n, c :: rest =>
    if c = '\x7d' then takeInQuotes? (Char.ofNat n :: done) .text rest
    else match hexValue? c with
      | some d => takeInQuotes? done (.codePoint (16 * n + d)) rest
      | none => none

/-- Takes a quoted text from the front. -/
def takeQuoted? : List Char → Option (List Char × List Char)
  | '"' :: rest => takeInQuotes? [] .text rest
  | _ => none

/-! ### Code points -/

theorem hexValue?_digitChar : ∀ n < 16, hexValue? (Nat.digitChar n) = some n := by
  decide

theorem digitChar_ne_brace : ∀ n < 16, Nat.digitChar n ≠ '\x7d' := by
  decide

theorem hexDigits_of_lt {n : Nat} (h : n < 16) : hexDigits n = [Nat.digitChar n] :=
  Nat.toDigits_of_lt_base h

theorem hexDigits_of_le {n : Nat} (h : 16 ≤ n) :
    hexDigits n = hexDigits (n / 16) ++ [Nat.digitChar (n % 16)] := by
  rw [hexDigits, Nat.toDigits_eq_if (by decide), if_neg (Nat.not_lt.2 h), hexDigits]

section

variable {done rest : List Char}

theorem takeInQuotes?_digitChar {n d : Nat} (h : d < 16) :
    takeInQuotes? done (.codePoint n) (Nat.digitChar d :: rest) =
      takeInQuotes? done (.codePoint (16 * n + d)) rest := by
  rw [takeInQuotes?, if_neg (digitChar_ne_brace d h), hexValue?_digitChar d h]

theorem takeInQuotes?_hexDigits (n : Nat) :
    takeInQuotes? done (.codePoint 0) (hexDigits n ++ rest) =
      takeInQuotes? done (.codePoint n) rest := by
  induction n using Nat.strongRecOn generalizing rest with
  | ind n ih =>
      by_cases hn : n < 16
      · rw [hexDigits_of_lt hn, List.singleton_append, takeInQuotes?_digitChar hn, Nat.mul_zero,
          Nat.zero_add]
      · have hle := Nat.not_lt.1 hn
        have hlt : n / 16 < n := by omega
        rw [hexDigits_of_le hle, List.append_assoc, List.singleton_append, ih _ hlt,
          takeInQuotes?_digitChar (Nat.mod_lt n (by decide)), Nat.div_add_mod]

/-! ### Characters -/

/-- The characters with a letter or a sign of their own behind a backslash. -/
def lettered : List Char :=
  ['"', '\\', '\n', '\r', '\t', '\x00']

theorem quotedChar_of_not_mem_lettered {c : Char} (h : c ∉ lettered) :
    quotedChar c = if isSeen c then [c]
      else ['\\', 'u', '\x7b'] ++ hexDigits c.toNat ++ ['\x7d'] := by
  simp only [lettered, List.mem_cons, List.not_mem_nil, or_false, not_or] at h
  have hzero : c.toNat ≠ 0 := fun hzero => h.2.2.2.2.2 (by rw [← Char.ofNat_toNat c, hzero])
  simp only [quotedChar, h, hzero, if_false]

/-- A character is read back from the way it is quoted. -/
theorem takeInQuotes?_quotedChar (c : Char) :
    takeInQuotes? done .text (quotedChar c ++ rest) = takeInQuotes? (c :: done) .text rest := by
  by_cases hlettered : c ∈ lettered
  · simp only [lettered, List.mem_cons, List.not_mem_nil, or_false] at hlettered
    rcases hlettered with rfl | rfl | rfl | rfl | rfl | rfl <;> rfl
  · rw [quotedChar_of_not_mem_lettered hlettered]
    split
    · simp only [lettered, List.mem_cons, List.not_mem_nil, or_false, not_or] at hlettered
      rw [List.singleton_append, takeInQuotes?, if_neg hlettered.1, if_neg hlettered.2.1]
    · rw [List.append_assoc, List.append_assoc]
      show takeInQuotes? done (.codePoint 0) (hexDigits c.toNat ++ '\x7d' :: rest) = _
      rw [takeInQuotes?_hexDigits, takeInQuotes?, if_pos rfl, Char.ofNat_toNat]

end

/-! ### Texts -/

theorem takeInQuotes?_flatMap_quotedChar (s rest : List Char) : ∀ done : List Char,
    takeInQuotes? done .text (s.flatMap quotedChar ++ '"' :: rest) =
      some (done.reverse ++ s, rest) := by
  induction s with
  | nil =>
      intro done
      rw [List.flatMap_nil, List.nil_append, takeInQuotes?, if_pos rfl, List.append_nil]
  | cons c s ih =>
      intro done
      rw [List.flatMap_cons, List.append_assoc, takeInQuotes?_quotedChar, ih, List.reverse_cons,
        List.append_assoc, List.singleton_append]

theorem takeQuoted?_quotedChars (s rest : List Char) :
    takeQuoted? (quotedChars s ++ rest) = some (s, rest) := by
  have hquotes : quotedChars s ++ rest = '"' :: (s.flatMap quotedChar ++ '"' :: rest) := by
    rw [quotedChars, List.append_assoc, List.cons_append, List.singleton_append]
  rw [hquotes, takeQuoted?, takeInQuotes?_flatMap_quotedChar]
  rfl

theorem quoted_inj {s t : String} : quoted s = quoted t ↔ s = t := by
  refine ⟨fun h => ?_, congrArg quoted⟩
  have hchars : quotedChars s.toList = quotedChars t.toList := by
    rw [← toList_quoted, h, toList_quoted]
  have htake := takeQuoted?_quotedChars s.toList []
  rw [hchars, takeQuoted?_quotedChars] at htake
  exact String.toList_inj.1 (Prod.mk.inj (Option.some.inj htake)).1.symm

/-! ### What is seen -/

theorem isSeen_of_isDigit {c : Char} (h : c.isDigit = true) : isSeen c = true := by
  have hlow : 48 ≤ c.toNat := (Char.isDigit_iff_toNat.1 h).1
  have hhigh : c.toNat ≤ 57 := (Char.isDigit_iff_toNat.1 h).2
  rw [isSeen, if_pos (by omega), decide_eq_true_iff]
  omega

theorem isSeen_digitChar : ∀ n < 16, isSeen (Nat.digitChar n) = true := by
  decide +kernel

theorem isSeen_of_mem_hexDigits {n : Nat} {c : Char} (h : c ∈ hexDigits n) : isSeen c = true := by
  induction n using Nat.strongRecOn with
  | ind n ih =>
      by_cases hn : n < 16
      · rw [hexDigits_of_lt hn, List.mem_singleton] at h
        exact h ▸ isSeen_digitChar n hn
      · rw [hexDigits_of_le (Nat.not_lt.1 hn), List.mem_append, List.mem_singleton] at h
        rcases h with h | rfl
        · exact ih (n / 16) (by omega) h
        · exact isSeen_digitChar _ (Nat.mod_lt n (by decide))

theorem isSeen_of_mem_quotedChar {c d : Char} (h : d ∈ quotedChar c) : isSeen d = true := by
  by_cases hlettered : c ∈ lettered
  · have hsigns : lettered.all (fun c => (quotedChar c).all isSeen) = true := by decide +kernel
    exact List.all_eq_true.1 (List.all_eq_true.1 hsigns c hlettered) d h
  · rw [quotedChar_of_not_mem_lettered hlettered] at h
    split at h
    case isTrue hseen => exact List.mem_singleton.1 h ▸ hseen
    case isFalse =>
      have hopen : ['\\', 'u', '\x7b'].all isSeen = true := by decide +kernel
      have hclose : ['\x7d'].all isSeen = true := by decide +kernel
      rw [List.mem_append, List.mem_append] at h
      rcases h with (h | h) | h
      · exact List.all_eq_true.1 hopen d h
      · exact isSeen_of_mem_hexDigits h
      · exact List.all_eq_true.1 hclose d h

theorem isSeen_of_mem_quotedChars {s : List Char} {c : Char} (h : c ∈ quotedChars s) :
    isSeen c = true := by
  have hquote : isSeen '"' = true := by decide +kernel
  rw [quotedChars, List.mem_append, List.mem_cons, List.mem_singleton, List.mem_flatMap] at h
  rcases h with (rfl | ⟨d, _, h⟩) | rfl
  · exact hquote
  · exact isSeen_of_mem_quotedChar h
  · exact hquote

end ReportRouting.Text
