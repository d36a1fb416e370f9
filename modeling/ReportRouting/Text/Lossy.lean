import ReportRouting.Text.Bytes

/-!
Bytes read as a text, whether they are one or not.

Where the bytes of a character break off, one replacement character stands for as many of them as
could have begun a character, and the byte that does not fit them is looked at anew. A byte that
begins no character is replaced as well.
-/

namespace ReportRouting.Text

def replacement : Char :=
  '\ufffd'

/-- The front part of the bytes of a character: how many bytes are missing, the bounds of the next
one, and the number that the bytes stand for so far. -/
structure OpenChar where
  missing : Nat
  least : Nat
  greatest : Nat
  value : Nat

/-- What the first of several bytes of a character opens. The bounds leave out the bytes of
characters that have a shorter form, that are surrogates or that do not exist. -/
def openChar? (b : Nat) : Option OpenChar :=
  if 0xC2 ≤ b ∧ b ≤ 0xDF then some ⟨1, 0x80, 0xBF, b - 0xC0⟩
  else if 0xE0 ≤ b ∧ b ≤ 0xEF then
    some ⟨2, if b = 0xE0 then 0xA0 else 0x80, if b = 0xED then 0x9F else 0xBF, b - 0xE0⟩
  else if 0xF0 ≤ b ∧ b ≤ 0xF4 then
    some ⟨3, if b = 0xF0 then 0x90 else 0x80, if b = 0xF4 then 0x8F else 0xBF, b - 0xF0⟩
  else none

def takeFirst (b : UInt8) : List Char × Option OpenChar :=
  if b.toNat < 0x80 then ([Char.ofNat b.toNat], none)
  else
    match openChar? b.toNat with
    | some c => ([], some c)
    | none => ([replacement], none)

def takeNext (c : OpenChar) (b : UInt8) : List Char × Option OpenChar :=
  if c.least ≤ b.toNat ∧ b.toNat ≤ c.greatest then
    let value := 64 * c.value + (b.toNat - 0x80)
    if c.missing = 1 then ([Char.ofNat value], none)
    else ([], some ⟨c.missing - 1, 0x80, 0xBF, value⟩)
  else (replacement :: (takeFirst b).1, (takeFirst b).2)

def lossyFrom : Option OpenChar → List UInt8 → List Char
  | none, [] => []
  | some _, [] => [replacement]
  | none, b :: rest => (takeFirst b).1 ++ lossyFrom (takeFirst b).2 rest
  | some c, b :: rest => (takeNext c b).1 ++ lossyFrom (takeNext c b).2 rest

def lossy (bytes : List UInt8) : List Char :=
  lossyFrom none bytes

section

variable {b least greatest value : Nat} (hb : b < 256) (rest : List UInt8)
include hb

theorem lossyFrom_first {c : OpenChar} (hwide : 0x80 ≤ b) (h : openChar? b = some c) :
    lossyFrom none (UInt8.ofNat b :: rest) = lossyFrom (some c) rest := by
  have hbyte : (UInt8.ofNat b).toNat = b := UInt8.toNat_ofNat_of_lt' hb
  rw [lossyFrom, takeFirst, hbyte, if_neg (Nat.not_lt_of_le hwide), h]
  rfl

theorem lossyFrom_next (missing : Nat) (h : least ≤ b ∧ b ≤ greatest) :
    lossyFrom (some ⟨missing + 2, least, greatest, value⟩) (UInt8.ofNat b :: rest) =
      lossyFrom (some ⟨missing + 1, 0x80, 0xBF, 64 * value + (b - 0x80)⟩) rest := by
  have hbyte : (UInt8.ofNat b).toNat = b := UInt8.toNat_ofNat_of_lt' hb
  rw [lossyFrom, takeNext, hbyte, if_pos h]
  rfl

theorem lossyFrom_last (h : least ≤ b ∧ b ≤ greatest) :
    lossyFrom (some ⟨1, least, greatest, value⟩) (UInt8.ofNat b :: rest) =
      Char.ofNat (64 * value + (b - 0x80)) :: lossyFrom none rest := by
  have hbyte : (UInt8.ofNat b).toNat = b := UInt8.toNat_ofNat_of_lt' hb
  rw [lossyFrom, takeNext, hbyte, if_pos h]
  rfl

end

/-! ### Whole characters -/

section

variable {v : Nat} (rest : List UInt8)

theorem lossyFrom_one_byte (h : v < 0x80) :
    lossyFrom none (UInt8.ofNat v :: rest) = Char.ofNat v :: lossyFrom none rest := by
  have hbyte : (UInt8.ofNat v).toNat = v := UInt8.toNat_ofNat_of_lt' (show v < 256 by omega)
  rw [lossyFrom, takeFirst, hbyte, if_pos h]
  rfl

theorem lossyFrom_two_bytes (h : 0x80 ≤ v) (h' : v < 0x800) :
    lossyFrom none
        (UInt8.ofNat (v / 64 % 32 + 0xC0) :: UInt8.ofNat (v % 64 + 0x80) :: rest) =
      Char.ofNat v :: lossyFrom none rest := by
  have hopen : openChar? (v / 64 % 32 + 0xC0) = some _ := if_pos (by omega)
  have hvalue : 64 * (v / 64 % 32 + 0xC0 - 0xC0) + (v % 64 + 0x80 - 0x80) = v := by omega
  rw [lossyFrom_first (by omega) _ (by omega) hopen, lossyFrom_last (by omega) _ (by omega), hvalue]

theorem lossyFrom_three_bytes (h : 0x800 ≤ v) (h' : v < 0x10000) (hv : v < 0xD800 ∨ 0xDFFF < v) :
    lossyFrom none
        (UInt8.ofNat (v / 4096 % 16 + 0xE0) :: UInt8.ofNat (v / 64 % 64 + 0x80) ::
          UInt8.ofNat (v % 64 + 0x80) :: rest) =
      Char.ofNat v :: lossyFrom none rest := by
  have hopen : openChar? (v / 4096 % 16 + 0xE0) = some _ :=
    (if_neg (by omega)).trans (if_pos (by omega))
  have hbounds : (if v / 4096 % 16 + 0xE0 = 0xE0 then 0xA0 else 0x80) ≤ v / 64 % 64 + 0x80 ∧
      v / 64 % 64 + 0x80 ≤ if v / 4096 % 16 + 0xE0 = 0xED then 0x9F else 0xBF := by
    constructor <;> split <;> omega
  have hvalue : 64 * (64 * (v / 4096 % 16 + 0xE0 - 0xE0) + (v / 64 % 64 + 0x80 - 0x80)) +
      (v % 64 + 0x80 - 0x80) = v := by omega
  rw [lossyFrom_first (by omega) _ (by omega) hopen, lossyFrom_next (by omega) _ 0 hbounds,
    lossyFrom_last (by omega) _ (by omega), hvalue]

theorem lossyFrom_four_bytes (h : 0x10000 ≤ v) (h' : v < 0x110000) :
    lossyFrom none
        (UInt8.ofNat (v / 262144 % 8 + 0xF0) :: UInt8.ofNat (v / 4096 % 64 + 0x80) ::
          UInt8.ofNat (v / 64 % 64 + 0x80) :: UInt8.ofNat (v % 64 + 0x80) :: rest) =
      Char.ofNat v :: lossyFrom none rest := by
  have hopen : openChar? (v / 262144 % 8 + 0xF0) = some _ :=
    (if_neg (by omega)).trans ((if_neg (by omega)).trans (if_pos (by omega)))
  have hbounds : (if v / 262144 % 8 + 0xF0 = 0xF0 then 0x90 else 0x80) ≤ v / 4096 % 64 + 0x80 ∧
      v / 4096 % 64 + 0x80 ≤ if v / 262144 % 8 + 0xF0 = 0xF4 then 0x8F else 0xBF := by
    constructor <;> split <;> omega
  have hvalue : 64 * (64 * (64 * (v / 262144 % 8 + 0xF0 - 0xF0) + (v / 4096 % 64 + 0x80 - 0x80)) +
      (v / 64 % 64 + 0x80 - 0x80)) + (v % 64 + 0x80 - 0x80) = v := by omega
  rw [lossyFrom_first (by omega) _ (by omega) hopen, lossyFrom_next (by omega) _ 1 hbounds,
    lossyFrom_next (by omega) _ 0 (by omega), lossyFrom_last (by omega) _ (by omega), hvalue]

end

theorem lossyFrom_utf8EncodeChar (c : Char) (rest : List UInt8) :
    lossyFrom none (String.utf8EncodeChar c ++ rest) = c :: lossyFrom none rest := by
  have hvalid : c.val.toNat < 0xD800 ∨ 0xDFFF < c.val.toNat ∧ c.val.toNat < 0x110000 := c.valid
  have hc : Char.ofNat c.val.toNat = c := Char.ofNat_toNat c
  simp only [String.utf8EncodeChar]
  generalize c.val.toNat = v at hvalid hc
  subst hc
  by_cases h1 : v < 0x80
  · rw [if_pos (by omega)]
    exact lossyFrom_one_byte rest h1
  by_cases h2 : v < 0x800
  · rw [if_neg (by omega), if_pos (by omega)]
    exact lossyFrom_two_bytes rest (by omega) h2
  by_cases h3 : v < 0x10000
  · rw [if_neg (by omega), if_neg (by omega), if_pos (by omega)]
    exact lossyFrom_three_bytes rest (by omega) h3 (by omega)
  · rw [if_neg (by omega), if_neg (by omega), if_neg (by omega)]
    exact lossyFrom_four_bytes rest (by omega) (by omega)

/-- The bytes of a text are read as this text. -/
theorem lossy_bytesOf (s : List Char) : lossy (bytesOf s) = s := by
  rw [lossy]
  induction s with
  | nil => rfl
  | cons c s ih => rw [bytesOf, List.flatMap_cons, lossyFrom_utf8EncodeChar, ← bytesOf, ih]

-- Characters that break off, one of them at the end, and a byte that begins none.
example : lossy [0x61, 0xE2, 0x82, 0x41, 0xF0, 0x9F, 0x98, 0xFF, 0xC3] =
    ['a', replacement, 'A', replacement, replacement, replacement] := by
  decide +kernel

end ReportRouting.Text
