import Mathlib.Algebra.Group.Nat.Defs
import Mathlib.Data.List.Basic
import Mathlib.Data.List.TakeWhile
import ReportRouting.Mail.Reply
import ReportRouting.Proofs.AsciiBytes

/-!
What the bytes of a line say in a reply.

A line is cut behind its third and its fourth byte, where a character need not end, and a plus can
stand for the first digit of its code. `HasCode`, `GoesOn` and `IsTextAfterFour` say in terms of
bytes what a line is; the functions that read a line count characters, which comes to the same
where there is a code.
-/

namespace ReportRouting

open Text

/-! ### Lines -/

/-- Lines as they arrive. There is a newline at the end of each of them, except that the last one
may be cut off. -/
inductive AreLines : List (List UInt8) → Prop where
  | nil : AreLines []
  | last {piece : List UInt8} (hne : piece ≠ []) (hpiece : 10 ∉ piece) : AreLines [piece]
  | line {piece : List UInt8} {ls : List (List UInt8)} (hpiece : 10 ∉ piece) (hls : AreLines ls) :
      AreLines ((piece ++ [10]) :: ls)

theorem exists_areLines (bytes : List UInt8) : ∃ ls, AreLines ls ∧ ls.flatten = bytes := by
  induction bytes with
  | nil => exact ⟨[], .nil, rfl⟩
  | cons b bytes ih =>
      obtain ⟨ls, hls, rfl⟩ := ih
      by_cases hb : b = 10
      · rw [hb]
        exact ⟨[10] :: ls, .line List.not_mem_nil hls, rfl⟩
      · have hcons : ∀ {piece : List UInt8}, 10 ∉ piece → 10 ∉ b :: piece := fun hpiece =>
          List.not_mem_cons_of_ne_of_not_mem (Ne.symm hb) hpiece
        -- The byte belongs to the first line of the rest, if there is one.
        cases hls with
        | nil => exact ⟨[[b]], .last (List.cons_ne_nil b []) (hcons List.not_mem_nil), rfl⟩
        | @last piece _ hpiece =>
            exact ⟨[b :: piece], .last (List.cons_ne_nil b piece) (hcons hpiece), rfl⟩
        | @line piece ls hpiece hls =>
            exact ⟨(b :: piece ++ [10]) :: ls, .line (hcons hpiece) hls, rfl⟩

namespace AreLines

variable {line : List UInt8} {ls : List (List UInt8)}

theorem tail (h : AreLines (line :: ls)) : AreLines ls := by
  cases h with
  | last => exact .nil
  | line _ hls => exact hls

/-- Without a last line that is cut off, every line has its newline. -/
theorem exists_ended (h : AreLines ls) :
    ∃ ended piece, AreLines ended ∧ (∀ line ∈ ended, line.getLast? = some 10) ∧ 10 ∉ piece ∧
      ended.flatten ++ piece = ls.flatten := by
  induction h with
  | nil => exact ⟨[], [], .nil, List.forall_mem_nil _, List.not_mem_nil, rfl⟩
  | @last piece _ hpiece =>
      exact ⟨[], piece, .nil, List.forall_mem_nil _, hpiece, List.flatten_singleton.symm⟩
  | @line piece ls hpiece _ ih =>
      obtain ⟨ended, lost, hlines, hended, hlost, hflatten⟩ := ih
      refine ⟨(piece ++ [10]) :: ended, lost, .line hpiece hlines, ?_, hlost, ?_⟩
      · exact List.forall_mem_cons.2 ⟨List.getLast?_concat, hended⟩
      · rw [List.flatten_cons, List.flatten_cons, List.append_assoc, hflatten]

end AreLines

namespace Incoming

/-- The lines that can be taken. A fault takes with it what stands behind the last newline, while
bytes behind which the connection is closed are lines to the last one. -/
inductive HasLines : Incoming → List (List UInt8) → List UInt8 → Prop where
  | closed {ls : List (List UInt8)} (hls : AreLines ls) : HasLines ⟨ls.flatten, none⟩ ls []
  | broken {ls : List (List UInt8)} {lost : List UInt8} {reason : String} (hls : AreLines ls)
      (hended : ∀ line ∈ ls, line.getLast? = some 10) (hlost : 10 ∉ lost) :
      HasLines ⟨ls.flatten ++ lost, some reason⟩ ls lost

theorem exists_hasLines (s : Incoming) : ∃ ls lost, s.HasLines ls lost := by
  obtain ⟨bytes, fault⟩ := s
  obtain ⟨ls, hls, rfl⟩ := exists_areLines bytes
  cases fault with
  | none => exact ⟨ls, [], .closed hls⟩
  | some reason =>
      obtain ⟨ended, lost, hlines, hended, hlost, hflatten⟩ := hls.exists_ended
      exact ⟨ended, lost, hflatten ▸ .broken hlines hended hlost⟩

theorem takeLine?_of_newline {piece : List UInt8} (h : 10 ∉ piece) (rest : List UInt8)
    (fault : Option String) :
    takeLine? ⟨piece ++ [10] ++ rest, fault⟩ = some (piece ++ [10], ⟨rest, fault⟩) := by
  have hpiece : ∀ b ∈ piece, (b != 10) = true := fun b hb => bne_iff_ne.2 fun heq => h (heq ▸ hb)
  rw [takeLine?, List.append_assoc, List.dropWhile_append_of_pos hpiece,
    List.takeWhile_append_of_pos hpiece]
  simp

theorem takeLine?_of_no_newline {piece : List UInt8} (h : 10 ∉ piece) (fault : Option String) :
    takeLine? ⟨piece, fault⟩ =
      if piece = [] ∨ fault.isSome then none else some (piece, ⟨[], fault⟩) := by
  have hpiece : ∀ b ∈ piece, (b != 10) = true := fun b hb => bne_iff_ne.2 fun heq => h (heq ▸ hb)
  rw [takeLine?, List.dropWhile_eq_nil_iff.2 hpiece]

namespace HasLines

variable {s : Incoming} {line lost : List UInt8} {ls : List (List UInt8)}

theorem eq (h : s.HasLines ls lost) : s = ⟨ls.flatten ++ lost, s.fault⟩ := by
  cases h with
  | closed => rw [List.append_nil]
  | broken => rfl

theorem tail (h : s.HasLines (line :: ls) lost) : HasLines ⟨ls.flatten ++ lost, s.fault⟩ ls lost := by
  cases h with
  | closed hls =>
      rw [List.append_nil]
      exact .closed hls.tail
  | broken hls hended hlost => exact .broken hls.tail (List.forall_mem_cons.1 hended).2 hlost

theorem of_append {front : List (List UInt8)} (h : s.HasLines (front ++ ls) lost) :
    HasLines ⟨ls.flatten ++ lost, s.fault⟩ ls lost := by
  induction front generalizing s with
  | nil => exact h.eq ▸ h
  | cons line front ih =>
      have hrest := ih h.tail
      exact hrest

theorem takeLine?_cons (h : s.HasLines (line :: ls) lost) :
    s.takeLine? = some (line, ⟨ls.flatten ++ lost, s.fault⟩) := by
  cases h with
  | closed hls =>
      rw [List.append_nil]
      cases hls with
      | last hne hpiece =>
          rw [List.flatten_singleton, takeLine?_of_no_newline hpiece, if_neg (by simp [hne])]
          rfl
      | line hpiece => exact takeLine?_of_newline hpiece _ _
  | broken hls hended =>
      cases hls with
      | last _ hpiece =>
          exact absurd (List.mem_of_getLast? (hended _ List.mem_cons_self)) hpiece
      | line hpiece =>
          rw [List.flatten_cons, List.append_assoc]
          exact takeLine?_of_newline hpiece _ _

theorem takeLine?_nil (h : s.HasLines [] lost) : s.takeLine? = none := by
  cases h with
  | closed => rfl
  | broken _ _ hlost =>
      show takeLine? ⟨lost, _⟩ = none
      rw [takeLine?_of_no_newline hlost, if_pos (.inr rfl)]

end HasLines

end Incoming

/-! ### The bytes of a line -/

/-- The line is a text, and this is what is left of it without the blanks at its end. -/
def HasTrimmedText (line : List UInt8) (t : List Char) : Prop :=
  ∃ s, line = bytesOf s ∧ t = trimEnd s

/-- Some digits, before which there may be a plus, stand for the number. -/
def IsNumeral (s : List Char) (n : Nat) : Prop :=
  ∃ sign ds, s = sign ++ ds ∧ (sign = [] ∨ sign = ['+']) ∧ ds ≠ [] ∧
    (∀ c ∈ ds, c.isDigit = true) ∧ ofDigits ds = n

/-- The first three bytes of the text are a numeral. -/
def HasCode (t : List Char) (code : Nat) : Prop :=
  ∃ front back, t = front ++ back ∧ (bytesOf front).length = 3 ∧ IsNumeral front code

/-- What follows the first four bytes of a text: nothing if there are not so many, nor if they do
not end with a character. -/
def IsTextAfterFour (t u : List Char) : Prop :=
  (∃ front, t = front ++ u ∧ (bytesOf front).length = 4) ∨
    u = [] ∧ ∀ front back, t = front ++ back → (bytesOf front).length ≠ 4

/-- There is a code at the front of the line, and the byte behind it is a hyphen. -/
def GoesOn (line : List UInt8) : Prop :=
  ∃ t, HasTrimmedText line t ∧ (∃ code, HasCode t code) ∧ (bytesOf t)[3]? = some 45

/-- What the line says to a reader. -/
def Says (line : List UInt8) (u : List Char) : Prop :=
  ∃ t, HasTrimmedText line t ∧ IsTextAfterFour t u

theorem HasTrimmedText.unique {line : List UInt8} {t t' : List Char} (h : HasTrimmedText line t)
    (h' : HasTrimmedText line t') : t = t' := by
  obtain ⟨s, rfl, rfl⟩ := h
  obtain ⟨s', hs, rfl⟩ := h'
  rw [bytesOf_inj.1 hs]

theorem IsTextAfterFour.unique {t u u' : List Char} (h : IsTextAfterFour t u)
    (h' : IsTextAfterFour t u') : u = u' := by
  rcases h with ⟨front, rfl, hfront⟩ | ⟨rfl, hno⟩
  · rcases h' with ⟨front', ht, hfront'⟩ | ⟨_, hno'⟩
    · exact eq_of_append_eq_append ht (hfront.trans hfront'.symm)
    · exact absurd hfront (hno' front u rfl)
  · rcases h' with ⟨front', ht, hfront'⟩ | ⟨rfl, _⟩
    · exact absurd hfront' (hno front' u' ht)
    · rfl

/-! ### Codes -/

theorem toNat_lt_of_isDigit {c : Char} (hc : c.isDigit = true) : c.toNat < 128 :=
  Nat.lt_of_le_of_lt (Char.isDigit_iff_toNat.1 hc).2 (by decide)

theorem IsNumeral.toNat_lt {s : List Char} {n : Nat} (h : IsNumeral s n) :
    ∀ c ∈ s, c.toNat < 128 := by
  obtain ⟨sign, ds, rfl, hsign, _, hds, _⟩ := h
  refine List.forall_mem_append.2 ⟨?_, fun c hc => toNat_lt_of_isDigit (hds c hc)⟩
  rcases hsign with rfl | rfl
  · exact List.forall_mem_nil _
  · exact List.forall_mem_singleton.2 (by decide)

/-- Since no character of a numeral takes more than one byte, the first three bytes of a text with
a code are its first three characters. -/
theorem HasCode.exists_eq_append {t : List Char} {code : Nat} (h : HasCode t code) :
    ∃ front back, t = front ++ back ∧ (bytesOf front).length = 3 ∧ front.length = 3 ∧
      IsNumeral front code := by
  obtain ⟨front, back, rfl, hbytes, hnumeral⟩ := h
  refine ⟨front, back, rfl, hbytes, ?_, hnumeral⟩
  rw [← hbytes, length_bytesOf_of_ascii hnumeral.toNat_lt]

/-- In three characters a sign leaves two digits. -/
theorem isNumeral_three_iff {a b c : Char} {n : Nat} :
    IsNumeral [a, b, c] n ↔
      ((a.isDigit || a == '+') && b.isDigit && c.isDigit) = true ∧
        ofDigits ((if a == '+' then [] else [a]) ++ [b, c]) = n := by
  simp only [Bool.and_eq_true, Bool.or_eq_true, beq_iff_eq]
  constructor
  · rintro ⟨sign, ds, hs, rfl | rfl, _, hds, rfl⟩
    · rw [List.nil_append] at hs
      subst hs
      have ha : a ≠ '+' := by
        rintro rfl
        exact absurd (hds '+' List.mem_cons_self) (by decide)
      simp only [List.forall_mem_cons] at hds
      rw [if_neg ha]
      exact ⟨⟨⟨.inl hds.1, hds.2.1⟩, hds.2.2.1⟩, rfl⟩
    · cases hs
      simp only [List.forall_mem_cons] at hds
      exact ⟨⟨⟨.inr rfl, hds.1⟩, hds.2.1⟩, rfl⟩
  · rintro ⟨⟨⟨ha, hb⟩, hc⟩, rfl⟩
    by_cases hsign : a = '+'
    · refine ⟨['+'], [b, c], by rw [hsign]; rfl, .inr rfl, List.cons_ne_nil b [c], ?_, ?_⟩
      · simp [hb, hc]
      · rw [if_pos hsign, List.nil_append]
    · refine ⟨[], [a, b, c], rfl, .inl rfl, List.cons_ne_nil a [b, c], ?_, ?_⟩
      · simp [hb, hc, ha.resolve_right hsign]
      · rw [if_neg hsign, List.singleton_append]

theorem code?_eq_some_iff {t : List Char} {code : Nat} :
    Reply.code? t = some code ↔ HasCode t code := by
  constructor
  · intro h
    match t, h with
    | a :: b :: c :: back, h =>
        rw [Reply.code?] at h
        split at h
        case isTrue htest =>
          have hnumeral := isNumeral_three_iff.2 ⟨htest, Option.some.inj h⟩
          exact ⟨[a, b, c], back, rfl, length_bytesOf_of_ascii hnumeral.toNat_lt, hnumeral⟩
        case isFalse => cases h
  · intro h
    obtain ⟨front, back, rfl, _, hlength, hnumeral⟩ := h.exists_eq_append
    obtain ⟨a, b, c, rfl⟩ := List.length_eq_three.1 hlength
    obtain ⟨htest, hcode⟩ := isNumeral_three_iff.1 hnumeral
    exact (if_pos htest).trans (congrArg some hcode)

theorem goesOn_eq_true_iff {t : List Char} {code : Nat} (h : HasCode t code) :
    Reply.goesOn t = true ↔ (bytesOf t)[3]? = some 45 := by
  obtain ⟨front, back, rfl, hbytes, hlength, _⟩ := h.exists_eq_append
  have hhyphen : (bytesOf back).head? = some 45 ↔ back.head? = some '-' :=
    head?_bytesOf_eq_some_iff (c := '-') (by decide)
  rw [Reply.goesOn, List.drop_left' hlength, beq_iff_eq, bytesOf_append,
    List.getElem?_append_right (Nat.le_of_eq hbytes), hbytes, Nat.sub_self,
    ← List.head?_eq_getElem?, hhyphen]

theorem isTextAfterFour_lineText {t : List Char} {code : Nat} (h : HasCode t code) :
    IsTextAfterFour t (Reply.lineText t) := by
  obtain ⟨front, back, rfl, hbytes, hlength, _⟩ := h.exists_eq_append
  rw [Reply.lineText, List.drop_left' hlength]
  cases back with
  | nil =>
      refine .inr ⟨rfl, fun front' back' ht hfour => ?_⟩
      have hcount := congrArg (fun s => (bytesOf s).length) ht
      simp only [List.append_nil, bytesOf_append, List.length_append] at hcount
      omega
  | cons separator rest =>
      dsimp only
      split
      case isTrue hascii =>
        refine .inl ⟨front ++ [separator], (List.append_cons ..), ?_⟩
        rw [bytesOf_append, List.length_append, hbytes, length_bytesOf_cons,
          utf8Size_eq_one_iff.2 hascii]
        rfl
      case isFalse hwide =>
        refine .inr ⟨rfl, fun front' back' ht hfour => ?_⟩
        exact hwide (toNat_lt_of_append_eq_append ht (by rw [hfour, hbytes]))

/-! ### Three digits -/

/-- A code that is written with three digits, as all codes of replies are. -/
def IsThreeDigit (code : Nat) : Prop :=
  100 ≤ code ∧ code < 1000

instance (code : Nat) : Decidable (IsThreeDigit code) :=
  inferInstanceAs (Decidable (_ ∧ _))

theorem digitValue_lt {c : Char} (hc : c.isDigit = true) : c.toNat - '0'.toNat < 10 := by
  have hle : c.toNat ≤ 57 := (Char.isDigit_iff_toNat.1 hc).2
  show c.toNat - 48 < 10
  omega

theorem digitValue_inj {c d : Char} (hc : c.isDigit = true) (hd : d.isDigit = true)
    (h : c.toNat - '0'.toNat = d.toNat - '0'.toNat) : c = d := by
  have hlow : 48 ≤ c.toNat := (Char.isDigit_iff_toNat.1 hc).1
  have hlow' : 48 ≤ d.toNat := (Char.isDigit_iff_toNat.1 hd).1
  change c.toNat - 48 = d.toNat - 48 at h
  exact Char.toNat_inj.1 (by omega)

theorem ofDigitChars_lt {ds : List Char} (hds : ∀ c ∈ ds, c.isDigit = true) (n : Nat) :
    Nat.ofDigitChars 10 ds n < (n + 1) * 10 ^ ds.length := by
  induction ds generalizing n with
  | nil => simp
  | cons c ds ih =>
      obtain ⟨hc, hds⟩ := List.forall_mem_cons.1 hds
      have hvalue := digitValue_lt hc
      rw [Nat.ofDigitChars_cons]
      calc Nat.ofDigitChars 10 ds (10 * n + (c.toNat - '0'.toNat))
          < (10 * n + (c.toNat - '0'.toNat) + 1) * 10 ^ ds.length := ih hds _
        _ ≤ (10 * (n + 1)) * 10 ^ ds.length := Nat.mul_le_mul_right _ (by omega)
        _ = (n + 1) * 10 ^ (c :: ds).length := by
            rw [List.length_cons, Nat.pow_succ, Nat.mul_comm 10, Nat.mul_assoc,
              Nat.mul_comm 10 (10 ^ _)]

/-- Numerals of the same length with the same value are the same. -/
theorem ofDigitChars_inj {ds es : List Char} (hlength : ds.length = es.length)
    (hds : ∀ c ∈ ds, c.isDigit = true) (hes : ∀ c ∈ es, c.isDigit = true) {m n : Nat}
    (h : Nat.ofDigitChars 10 ds m = Nat.ofDigitChars 10 es n) : ds = es ∧ m = n := by
  induction ds generalizing es m n with
  | nil =>
      obtain rfl := List.length_eq_zero_iff.1 hlength.symm
      exact ⟨rfl, h⟩
  | cons c ds ih =>
      cases es with
      | nil => cases hlength
      | cons d es =>
          obtain ⟨hc, hds⟩ := List.forall_mem_cons.1 hds
          obtain ⟨hd, hes⟩ := List.forall_mem_cons.1 hes
          rw [Nat.ofDigitChars_cons, Nat.ofDigitChars_cons] at h
          obtain ⟨rfl, hsum⟩ := ih (Nat.succ_inj.1 hlength) hds hes h
          have hc' := digitValue_lt hc
          have hd' := digitValue_lt hd
          have hcd : c = d := digitValue_inj hc hd (by omega)
          exact ⟨by rw [hcd], by omega⟩

theorem length_digits_of_isThreeDigit {code : Nat} (h : IsThreeDigit code) :
    (digits code).length = 3 := by
  have hle : (digits code).length ≤ 3 := (Nat.length_toDigits_le_iff (by decide) (by decide)).2 h.2
  have hlt : ¬(digits code).length ≤ 2 := fun h2 =>
    absurd ((Nat.length_toDigits_le_iff (by decide) (by decide)).1 h2) (Nat.not_lt_of_le h.1)
  omega

/-- With a plus there is only room for two digits, so a code of three has no other numeral. -/
theorem hasCode_iff_of_isThreeDigit {t : List Char} {code : Nat} (hcode : IsThreeDigit code) :
    HasCode t code ↔ (bytesOf t).take 3 = bytesOf (digits code) := by
  have hlength := length_digits_of_isThreeDigit hcode
  have hdigits : ∀ c ∈ digits code, c.isDigit = true := fun _ => isDigit_of_mem_digits
  have hbytes : (bytesOf (digits code)).length = 3 := by
    rw [length_bytesOf_of_ascii fun c hc => toNat_lt_of_isDigit (hdigits c hc), hlength]
  constructor
  · intro h
    obtain ⟨front, back, rfl, hfront, hlength', sign, ds, rfl, rfl | rfl, _, hds, hvalue⟩ :=
      h.exists_eq_append
    · have hsame : ds = digits code :=
        (ofDigitChars_inj (hlength'.trans hlength.symm) hds hdigits
          (hvalue.trans (ofDigits_digits code).symm)).1
      rw [bytesOf_append, List.take_left' hfront, List.nil_append, hsame]
    · have htwo : ds.length = 2 := Nat.succ_inj.1 hlength'
      have hbound := ofDigitChars_lt hds 0
      rw [htwo] at hbound
      have hlow : 100 ≤ Nat.ofDigitChars 10 ds 0 := by
        rw [← hvalue] at hcode
        exact hcode.1
      omega
  · intro h
    have hsplit : bytesOf t = bytesOf (digits code) ++ (bytesOf t).drop 3 := by
      rw [← h, List.take_append_drop]
    obtain ⟨rest, rfl⟩ := exists_eq_append_of_bytesOf_eq
      (fun c hc => toNat_lt_of_isDigit (hdigits c hc)) hsplit
    exact ⟨digits code, rest, rfl, hbytes, [], digits code, rfl, .inl rfl, Nat.toDigits_ne_nil,
      hdigits, ofDigits_digits code⟩

end ReportRouting
