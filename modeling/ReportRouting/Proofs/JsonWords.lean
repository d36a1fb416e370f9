import ReportRouting.Json.Token
import ReportRouting.Json.Writer
import Mathlib.Data.List.Forall2

/-!
Words of JSON, written and taken again.

A text comes back between any two quotes, whatever characters it has. A number comes back in front
of everything that cannot prolong it, and what follows a value in a document is such: a comma or
the end of what the value stands in.
-/

namespace ReportRouting.Json

open Text (hexValue?)

/-! ### Texts -/

/-- The characters with an escape of two characters. -/
def briefly : List Char :=
  ['"', '\\', '\x08', '\x0c', '\n', '\r', '\t']

/-- What is read for a character: the character, or its number where it has a long escape. -/
def Piece.StandsFor (p : Piece) (c : Char) : Prop :=
  p = .char c ∨ c.toNat < 0x20 ∧ p = .unit c.toNat

section Characters

variable {c : Char} {done : List Piece} {rest : List Char}

theorem takePieces?_writeChar_of_mem_briefly (hc : c ∈ briefly) :
    takePieces? done (writeChar c ++ rest) = takePieces? (.char c :: done) rest := by
  simp only [briefly, List.mem_cons, List.not_mem_nil, or_false] at hc
  rcases hc with rfl | rfl | rfl | rfl | rfl | rfl | rfl <;> simp [writeChar, takePieces?, escaped?]

theorem writeChar_of_not_mem_briefly (hc : c ∉ briefly) :
    writeChar c = if c.toNat < 0x20 then
      ['\\', 'u', '0', '0', hexDigit (c.toNat / 16), hexDigit (c.toNat % 16)] else [c] := by
  simp only [briefly, List.mem_cons, List.not_mem_nil, or_false, not_or] at hc
  simp only [writeChar, hc, if_false]

theorem hexValue?_hexDigit : ∀ n < 16, hexValue? (hexDigit n) = some n := by
  decide

theorem takePieces?_writeChar_of_control (hc : c ∉ briefly) (hlow : c.toNat < 0x20) :
    takePieces? done (writeChar c ++ rest) = takePieces? (.unit c.toNat :: done) rest := by
  have hzero : hexValue? '0' = some 0 := hexValue?_hexDigit 0 (by decide)
  have hfirst := hexValue?_hexDigit (c.toNat / 16) (by omega)
  have hsecond := hexValue?_hexDigit (c.toNat % 16) (by omega)
  have hvalue : ((0 * 16 + 0) * 16 + c.toNat / 16) * 16 + c.toNat % 16 = c.toNat := by omega
  rw [writeChar_of_not_mem_briefly hc, if_pos hlow]
  simp only [List.cons_append, List.nil_append]
  rw [takePieces?]
  simp only [hzero, hfirst, hsecond, hvalue]

theorem takePieces?_writeChar_of_plain (hc : c ∉ briefly) (hplain : 0x20 ≤ c.toNat) :
    takePieces? done (writeChar c ++ rest) = takePieces? (.char c :: done) rest := by
  rw [writeChar_of_not_mem_briefly hc, if_neg (Nat.not_lt.2 hplain)]
  simp only [briefly, List.mem_cons, List.not_mem_nil, or_false, not_or] at hc
  obtain ⟨hquote, hslash, -⟩ := hc
  rw [List.cons_append, List.nil_append, takePieces?, if_neg]
  · simp [hslash, hplain]
  all_goals simp [hquote, hslash]

end Characters

theorem exists_takePieces?_writeChar (c : Char) :
    ∃ p : Piece, p.StandsFor c ∧ ∀ done rest,
      takePieces? done (writeChar c ++ rest) = takePieces? (p :: done) rest := by
  by_cases hbrief : c ∈ briefly
  · exact ⟨.char c, .inl rfl, fun _ _ => takePieces?_writeChar_of_mem_briefly hbrief⟩
  · by_cases hlow : c.toNat < 0x20
    · exact ⟨.unit c.toNat, .inr ⟨hlow, rfl⟩,
        fun _ _ => takePieces?_writeChar_of_control hbrief hlow⟩
    · exact ⟨.char c, .inl rfl,
        fun _ _ => takePieces?_writeChar_of_plain hbrief (Nat.not_lt.1 hlow)⟩

theorem exists_takePieces?_flatMap_writeChar (s rest : List Char) :
    ∀ {done : List Piece} {past : List Char}, List.Forall₂ Piece.StandsFor done past →
      ∃ pieces, takePieces? done (s.flatMap writeChar ++ '"' :: rest) = some (pieces, rest) ∧
        List.Forall₂ Piece.StandsFor pieces (s.reverse ++ past) := by
  induction s with
  | nil => exact fun {done} _ hdone => ⟨done, by simp [takePieces?], by simpa using hdone⟩
  | cons c s ih =>
      intro done past hdone
      obtain ⟨p, hp, htake⟩ := exists_takePieces?_writeChar c
      obtain ⟨pieces, hpieces, hall⟩ := ih (.cons hp hdone)
      refine ⟨pieces, ?_, by simpa using hall⟩
      rw [List.flatMap_cons, List.append_assoc, htake, hpieces]

theorem joinPieces?_of_standsFor {pieces : List Piece} {s : List Char}
    (h : List.Forall₂ Piece.StandsFor pieces s) :
    ∀ after, joinPieces? after pieces = some (s.reverse ++ after) := by
  induction h with
  | nil => exact fun after => rfl
  | @cons p c pieces s hp _ ih =>
      intro after
      have hnext : joinPieces? after (p :: pieces) = joinPieces? (c :: after) pieces := by
        obtain rfl | ⟨hc, rfl⟩ := hp
        · rfl
        -- A control character is no half of a surrogate pair.
        · rw [joinPieces?.eq_def]
          simp only [Char.ofNat_toNat]
          rw [if_neg (by omega), if_neg (by omega)]
      rw [hnext, ih, List.reverse_cons, List.append_assoc, List.singleton_append]

theorem takeWord?_writeText (s : String) (rest : List Char) :
    takeWord? (writeText s ++ rest) = some (.text (some s), rest) := by
  obtain ⟨pieces, htake, hpieces⟩ :=
    exists_takePieces?_flatMap_writeChar s.toList rest List.Forall₂.nil
  have hjoin : joinPieces? [] pieces = some s.toList := by
    simpa using joinPieces?_of_standsFor hpieces []
  rw [writeText, List.append_assoc, List.cons_append, List.singleton_append, takeWord?, htake]
  simp [hjoin]

/-! ### Numbers -/

/-- A number as JSON has it: no needless zero in front, and digits in every place. -/
structure IsProper (n : Numeral) : Prop where
  whole_ne_nil : n.whole ≠ []
  isDigit_of_mem_whole : ∀ c ∈ n.whole, c.isDigit = true
  eq_zero_of_head? : n.whole.head? = some '0' → n.whole = ['0']
  isDigit_of_mem_fraction : ∀ c ∈ n.fraction, c.isDigit = true
  exponent_ne_nil : ∀ e ∈ n.exponent, e.2 ≠ []
  isDigit_of_mem_exponent : ∀ e ∈ n.exponent, ∀ c ∈ e.2, c.isDigit = true

/-- What can follow a value in a document. -/
def Delimited (rest : List Char) : Prop :=
  ∀ c ∈ rest.head?, c ∈ [',', ']', '\x7d']

def writeFraction (ds : List Char) : List Char :=
  if ds.isEmpty then [] else '.' :: ds

def writeExponent : Option (Bool × List Char) → List Char
  | none => []
  | some (negative, ds) => 'e' :: (if negative then '-' :: ds else ds)

theorem takeDigits_append {ds rest : List Char} (hds : ∀ c ∈ ds, c.isDigit = true)
    (hrest : ∀ c ∈ rest.head?, c.isDigit = false) : takeDigits (ds ++ rest) = (ds, rest) := by
  have hnone : takeDigits rest = ([], rest) := by
    cases rest with
    | nil => rfl
    | cons c rest =>
        have hc : ¬c.isDigit = true := by simp [hrest c rfl]
        rw [takeDigits, List.takeWhile_cons_of_neg hc, List.dropWhile_cons_of_neg hc]
  rw [takeDigits, Prod.mk.injEq] at hnone
  rw [takeDigits, List.takeWhile_append_of_pos hds, List.dropWhile_append_of_pos hds, hnone.1,
    hnone.2, List.append_nil]

theorem takeWhole?_append {ds rest : List Char} (hne : ds ≠ [])
    (hds : ∀ c ∈ ds, c.isDigit = true) (hzero : ds.head? = some '0' → ds = ['0'])
    (hrest : ∀ c ∈ rest.head?, c.isDigit = false) : takeWhole? (ds ++ rest) = some (ds, rest) := by
  rw [takeWhole?, takeDigits_append hds hrest]
  split
  · next h => exact absurd (Prod.mk.inj h).1 hne
  · next h =>
    obtain ⟨rfl, -⟩ := Prod.mk.inj h
    cases hzero rfl
  · next h => rw [h]

theorem takeSignedDigits?_append {ds rest : List Char} (negative : Bool) (hne : ds ≠ [])
    (hds : ∀ c ∈ ds, c.isDigit = true) (hrest : ∀ c ∈ rest.head?, c.isDigit = false) :
    takeSignedDigits? negative (ds ++ rest) = some ((negative, ds), rest) := by
  rw [takeSignedDigits?, takeDigits_append hds hrest]
  split
  · next h => exact absurd (Prod.mk.inj h).1 hne
  · next h => rw [(Prod.mk.inj h).1, (Prod.mk.inj h).2]

theorem takeFraction?_writeFraction {ds rest : List Char} (hds : ∀ c ∈ ds, c.isDigit = true)
    (hrest : ∀ c ∈ rest.head?, c.isDigit = false ∧ c ≠ '.') :
    takeFraction? (writeFraction ds ++ rest) = some (ds, rest) := by
  cases ds with
  | nil =>
      show takeFraction? rest = some ([], rest)
      rw [takeFraction?.eq_def]
      split
      · exact absurd rfl (hrest '.' rfl).2
      · rfl
  | cons d ds =>
      show takeFraction? ('.' :: (d :: ds ++ rest)) = some (d :: ds, rest)
      rw [takeFraction?, takeDigits_append hds fun c hc => (hrest c hc).1]

theorem takeExponentDigits?_append {negative : Bool} {ds rest : List Char} (hne : ds ≠ [])
    (hds : ∀ c ∈ ds, c.isDigit = true) (hrest : ∀ c ∈ rest.head?, c.isDigit = false) :
    takeExponentDigits? ((if negative then '-' :: ds else ds) ++ rest) =
      some ((negative, ds), rest) := by
  have htake := takeSignedDigits?_append negative hne hds hrest
  cases negative with
  | true => exact htake
  | false =>
      obtain ⟨d, ds, rfl⟩ := List.exists_cons_of_ne_nil hne
      have hd := hds d List.mem_cons_self
      rw [if_neg Bool.false_ne_true, ← htake, List.cons_append, takeExponentDigits?]
      all_goals
        intro s hs
        rw [(List.cons.inj hs).1] at hd
        cases hd

theorem takeExponent?_writeExponent {e : Option (Bool × List Char)} {rest : List Char}
    (hne : ∀ p ∈ e, p.2 ≠ []) (hds : ∀ p ∈ e, ∀ c ∈ p.2, c.isDigit = true)
    (hrest : ∀ c ∈ rest.head?, c.isDigit = false ∧ c ≠ 'e' ∧ c ≠ 'E') :
    takeExponent? (writeExponent e ++ rest) = some (e, rest) := by
  match e with
  | none =>
      show takeExponent? rest = some (none, rest)
      cases rest with
      | nil => rfl
      | cons c rest =>
          have hc : ¬(c = 'e' ∨ c = 'E') := not_or.2 (hrest c rfl).2
          rw [takeExponent?, if_neg hc]
  | some (negative, ds) =>
      show (takeExponentDigits? ((if negative then '-' :: ds else ds) ++ rest)).map _ = _
      rw [takeExponentDigits?_append (hne _ rfl) (hds _ rfl) fun c hc => (hrest c hc).1]
      rfl

theorem Delimited.not_prolonging {rest : List Char} (h : Delimited rest) :
    ∀ c ∈ rest.head?, c.isDigit = false ∧ c ≠ '.' ∧ c ≠ 'e' ∧ c ≠ 'E' := by
  intro c hc
  have hmem := h c hc
  simp only [List.mem_cons, List.not_mem_nil, or_false] at hmem
  rcases hmem with rfl | rfl | rfl <;> decide

theorem Delimited.head?_writeExponent {rest : List Char} (h : Delimited rest)
    (e : Option (Bool × List Char)) :
    ∀ c ∈ (writeExponent e ++ rest).head?, c.isDigit = false ∧ c ≠ '.' := by
  intro c hc
  cases e with
  | none => exact ⟨(h.not_prolonging c hc).1, (h.not_prolonging c hc).2.1⟩
  | some p =>
      obtain rfl : 'e' = c := Option.some.inj hc
      decide

theorem Delimited.head?_writeFraction {rest : List Char} (h : Delimited rest) (ds : List Char)
    (e : Option (Bool × List Char)) :
    ∀ c ∈ (writeFraction ds ++ (writeExponent e ++ rest)).head?, c.isDigit = false := by
  intro c hc
  cases ds with
  | nil => exact (h.head?_writeExponent e c hc).1
  | cons d ds =>
      obtain rfl : '.' = c := Option.some.inj hc
      rfl

theorem takeUnsigned?_append {n : Numeral} (h : IsProper n) {rest : List Char}
    (hrest : Delimited rest) :
    takeUnsigned? n.negative
      (n.whole ++ (writeFraction n.fraction ++ (writeExponent n.exponent ++ rest))) =
        some (n, rest) := by
  have hwhole := takeWhole?_append h.whole_ne_nil h.isDigit_of_mem_whole h.eq_zero_of_head?
    (hrest.head?_writeFraction n.fraction n.exponent)
  have hfraction := takeFraction?_writeFraction h.isDigit_of_mem_fraction
    (hrest.head?_writeExponent n.exponent)
  have hexponent := takeExponent?_writeExponent h.exponent_ne_nil h.isDigit_of_mem_exponent
    fun c hc => ⟨(hrest.not_prolonging c hc).1, (hrest.not_prolonging c hc).2.2⟩
  simp only [takeUnsigned?, hwhole, hfraction, hexponent, Option.bind_eq_bind, Option.bind_some,
    Option.pure_def]

theorem writeNumeral_append (n : Numeral) (rest : List Char) :
    writeNumeral n ++ rest = (if n.negative then ['-'] else []) ++
      (n.whole ++ (writeFraction n.fraction ++ (writeExponent n.exponent ++ rest))) := by
  have h : writeNumeral n = (if n.negative then ['-'] else []) ++ n.whole
      ++ writeFraction n.fraction ++ writeExponent n.exponent := rfl
  simp only [h, List.append_assoc]

theorem takeWord?_of_digit {c : Char} (hc : c.isDigit = true) (s : List Char) :
    takeWord? (c :: s) = (takeUnsigned? false (c :: s)).map fun p => (.number p.1, p.2) := by
  rw [takeWord?, takeNumeral?]
  all_goals
    intro s' hs
    rw [(List.cons.inj hs).1] at hc
    cases hc

theorem takeWord?_writeNumeral {n : Numeral} (h : IsProper n) {rest : List Char}
    (hrest : Delimited rest) :
    takeWord? (writeNumeral n ++ rest) = some (.number n, rest) := by
  have htake := takeUnsigned?_append h hrest
  rw [writeNumeral_append]
  cases hsign : n.negative with
  | true =>
      rw [hsign] at htake
      show (takeUnsigned? true (n.whole ++ _)).map _ = _
      rw [htake]
      rfl
  | false =>
      rw [hsign] at htake
      obtain ⟨c, ds, hds⟩ := List.exists_cons_of_ne_nil h.whole_ne_nil
      have hc : c.isDigit = true := h.isDigit_of_mem_whole c (hds ▸ List.mem_cons_self)
      rw [hds] at htake ⊢
      show takeWord? (c :: ds ++ _) = _
      rw [List.cons_append, takeWord?_of_digit hc, ← List.cons_append, htake]
      rfl

/-! ### Natural numbers -/

theorem head?_digits_ne_zero : ∀ {n : Nat}, n ≠ 0 → (Text.digits n).head? ≠ some '0' := by
  intro n
  induction n using Nat.strongRecOn with
  | _ n ih =>
      intro hn
      by_cases hlt : n < 10
      · have hchar : ∀ m < 10, m ≠ 0 → some (Nat.digitChar m) ≠ some '0' := by decide
        rw [Text.digits, Nat.toDigits_of_lt_base hlt]
        exact hchar n hlt hn
      · have hbase : 10 ≤ n := Nat.not_lt.1 hlt
        have hprefix := ih (n / 10) (Nat.div_lt_self (by omega) (by decide)) (by omega)
        rw [Text.digits] at hprefix ⊢
        rw [Nat.toDigits_of_base_le (by decide) hbase,
          List.head?_append_of_ne_nil _ Nat.toDigits_ne_nil]
        exact hprefix

theorem isProper_ofNat (n : Nat) : IsProper (.ofNat n) where
  whole_ne_nil := Nat.toDigits_ne_nil
  isDigit_of_mem_whole _ hc := Text.isDigit_of_mem_digits hc
  eq_zero_of_head? h := by
    by_cases hn : n = 0
    · subst hn
      rfl
    · exact absurd h (head?_digits_ne_zero hn)
  isDigit_of_mem_fraction _ hc := absurd hc List.not_mem_nil
  exponent_ne_nil _ he := nomatch he
  isDigit_of_mem_exponent _ he := nomatch he

end ReportRouting.Json
