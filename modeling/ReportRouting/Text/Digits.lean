/-!
Numbers as digits.
-/

namespace ReportRouting.Text

/-- A number in decimal. -/
def digits (n : Nat) : List Char :=
  Nat.toDigits 10 n

/-- A number in decimal with zeros in front up to a width. -/
def padded (width n : Nat) : List Char :=
  List.replicate (width - (digits n).length) '0' ++ digits n

/-- The number that some digits stand for. -/
def ofDigits (s : List Char) : Nat :=
  Nat.ofDigitChars 10 s 0

/-- The value of a hexadecimal digit. -/
def hexValue? (c : Char) : Option Nat :=
  if c.isDigit then some (c.toNat - '0'.toNat)
  else if 'a' ≤ c ∧ c ≤ 'f' then some (c.toNat - 'a'.toNat + 10)
  else if 'A' ≤ c ∧ c ≤ 'F' then some (c.toNat - 'A'.toNat + 10)
  else none

@[simp] theorem ofDigits_digits (n : Nat) : ofDigits (digits n) = n :=
  Nat.ofDigitChars_toDigits (by decide) (by decide)

@[simp] theorem ofDigits_padded (width n : Nat) : ofDigits (padded width n) = n := by
  rw [padded, ofDigits, Nat.ofDigitChars_append, Nat.ofDigitChars_replicate_zero]
  exact ofDigits_digits n

theorem isDigit_of_mem_digits {n : Nat} {c : Char} (h : c ∈ digits n) : c.isDigit = true :=
  Nat.isDigit_of_mem_toDigits (by decide) (by decide) h

theorem isDigit_of_mem_padded {width n : Nat} {c : Char} (h : c ∈ padded width n) :
    c.isDigit = true := by
  rcases List.mem_append.1 h with h | h
  · rw [List.eq_of_mem_replicate h]; rfl
  · exact isDigit_of_mem_digits h

/-- Takes the leading digits of a text, at most `width` of them, and at least one. -/
def takeNumber? (width : Nat) (s : List Char) : Option (Nat × List Char) :=
  let ds := (s.take width).takeWhile Char.isDigit
  if ds.isEmpty then none else some (ofDigits ds, s.drop ds.length)

end ReportRouting.Text
