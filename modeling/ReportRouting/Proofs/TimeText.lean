import ReportRouting.Time.Format
import ReportRouting.Time.Reader
import Mathlib.Algebra.Group.Nat.Defs
import Mathlib.Tactic.SplitIfs

/-!
Points in time, written into documents and read again.

A number with zeros in front is taken whole by a reader of so many digits, so every part of a time
is read up to its end. What is left over is the offset, and that of the zero meridian changes
nothing.
-/

namespace ReportRouting

namespace Text

/-! ### Numbers of a fixed width -/

theorem length_padded {width n : Nat} (hwidth : 0 < width) (hn : n < 10 ^ width) :
    (padded width n).length = width := by
  have hle : (digits n).length ≤ width := (Nat.length_toDigits_le_iff (by decide) hwidth).2 hn
  rw [padded, List.length_append, List.length_replicate]
  omega

theorem padded_ne_nil (width n : Nat) : padded width n ≠ [] :=
  List.append_ne_nil_of_right_ne_nil _ Nat.toDigits_ne_nil

theorem isBlank_of_isDigit {c : Char} (hc : c.isDigit = true) : isBlank c = false := by
  simp only [Char.isDigit, Bool.and_eq_true, decide_eq_true_eq] at hc
  have hlow : 48 ≤ c.toNat := hc.1
  have hhigh : c.toNat ≤ 57 := hc.2
  simp only [isBlank, Bool.or_eq_false_iff, Bool.and_eq_false_iff, beq_eq_false_iff_ne,
    decide_eq_false_iff_not]
  omega

/-- A number in front of a text begins with a digit, so neither blank nor sign. -/
theorem exists_padded_append_eq_cons (width n : Nat) (rest : List Char) :
    ∃ c s, padded width n ++ rest = c :: s ∧ c.isDigit = true := by
  obtain ⟨c, s, hs⟩ := List.exists_cons_of_ne_nil (padded_ne_nil width n)
  exact ⟨c, s ++ rest, by rw [hs, List.cons_append],
    isDigit_of_mem_padded (hs ▸ List.mem_cons_self)⟩

@[simp] theorem trimStart_padded_append (width n : Nat) (rest : List Char) :
    trimStart (padded width n ++ rest) = padded width n ++ rest := by
  obtain ⟨c, s, hs, hc⟩ := exists_padded_append_eq_cons width n rest
  rw [hs]
  exact List.dropWhile_cons_of_neg (by simp [isBlank_of_isDigit hc])

theorem takeNumber?_append {width : Nat} {ds rest : List Char} (hne : ds ≠ [])
    (hds : ∀ c ∈ ds, c.isDigit = true) (hlength : ds.length ≤ width)
    (hrest : ds.length = width ∨ ∀ c ∈ rest.head?, c.isDigit = false) :
    takeNumber? width (ds ++ rest) = some (ofDigits ds, rest) := by
  have htake : ((ds ++ rest).take width).takeWhile Char.isDigit = ds := by
    rw [List.take_append, List.take_of_length_le hlength, List.takeWhile_append_of_pos hds]
    rcases hrest with rfl | hrest
    · simp
    · cases rest with
      | nil => simp
      | cons c rest =>
          have hc := hrest c rfl
          cases width - ds.length <;> simp [hc]
  rw [takeNumber?, htake, if_neg (by simp [hne]), List.drop_left]

theorem takeNumber?_padded {width n : Nat} (hwidth : 0 < width) (hn : n < 10 ^ width)
    (rest : List Char) : takeNumber? width (padded width n ++ rest) = some (n, rest) := by
  have hlength := length_padded hwidth hn
  rw [takeNumber?_append (padded_ne_nil width n) (fun c hc => isDigit_of_mem_padded hc)
    (Nat.le_of_eq hlength) (.inl hlength), ofDigits_padded]

/-- Where no digit follows, the width of the place does not matter. -/
theorem takeNumber?_padded_of_le {width places n : Nat} {rest : List Char}
    (hplaces : (padded width n).length ≤ places) (hrest : ∀ c ∈ rest.head?, c.isDigit = false) :
    takeNumber? places (padded width n ++ rest) = some (n, rest) := by
  rw [takeNumber?_append (padded_ne_nil width n) (fun c hc => isDigit_of_mem_padded hc)
    hplaces (.inr hrest), ofDigits_padded]

end Text

open Text

/-! ### Parts -/

theorem takeLenient?_padded {n : Nat} (hn : n < 100) (rest : List Char) :
    takeLenient? 2 (padded 2 n ++ rest) = some (n, rest) := by
  rw [takeLenient?, trimStart_padded_append]
  exact takeNumber?_padded (by decide) hn rest

theorem afterChar?_trimStart {c : Char} (hc : isBlank c = false) (rest : List Char) :
    afterChar? c (trimStart (c :: rest)) = some rest := by
  rw [trimStart, List.dropWhile_cons_of_neg (by simp [hc]), afterChar?, if_pos rfl]

theorem takeYear?_minus (s : List Char) :
    takeYear? ('-' :: s) = (takeNumber? s.length s).map fun p => (-(p.1 : Int), p.2) :=
  rfl

theorem takeYear?_plus (s : List Char) :
    takeYear? ('+' :: s) = (takeNumber? s.length s).map fun p => ((p.1 : Int), p.2) :=
  rfl

theorem takeYear?_padded_append (n : Nat) (rest : List Char) :
    takeYear? (padded 4 n ++ rest) =
      (takeNumber? 4 (padded 4 n ++ rest)).map fun p => ((p.1 : Int), p.2) := by
  obtain ⟨c, s, hs, hc⟩ := exists_padded_append_eq_cons 4 n rest
  rw [takeYear?, trimStart_padded_append, hs]
  split
  · next heq =>
    rw [(List.cons.inj heq).1] at hc
    cases hc
  · next heq =>
    rw [(List.cons.inj heq).1] at hc
    cases hc
  · rfl

theorem takeYear?_yearText (year : Int) {rest : List Char}
    (hrest : ∀ c ∈ rest.head?, c.isDigit = false) :
    takeYear? (yearText year ++ rest) = some (year, rest) := by
  have hsigned : takeNumber? (padded 4 year.natAbs ++ rest).length (padded 4 year.natAbs ++ rest) =
      some (year.natAbs, rest) :=
    takeNumber?_padded_of_le (by rw [List.length_append]; exact Nat.le_add_right _ _) hrest
  unfold yearText
  split_ifs with hplain hnegative
  · have htake : takeNumber? 4 (padded 4 year.toNat ++ rest) = some (year.toNat, rest) :=
      takeNumber?_padded (by decide) (by omega) rest
    rw [takeYear?_padded_append, htake, Option.map_some, Int.toNat_of_nonneg hplain.1]
  · have hyear : -(year.natAbs : Int) = year := by omega
    rw [List.cons_append, takeYear?_minus, hsigned, Option.map_some, hyear]
  · have hyear : (year.natAbs : Int) = year := by omega
    rw [List.cons_append, takeYear?_plus, hsigned, Option.map_some, hyear]

theorem takeFraction?_point_padded {width n : Nat} {rest : List Char} (hwidth : 0 < width)
    (hle : width ≤ 9) (hn : n < 10 ^ width) (hrest : ∀ c ∈ rest.head?, c.isDigit = false) :
    takeFraction? ('.' :: padded width n ++ rest) = some (n * 10 ^ (9 - width), rest) := by
  have hlength := length_padded hwidth hn
  have htake := takeNumber?_padded_of_le (hlength.symm ▸ hle : (padded width n).length ≤ 9) hrest
  have hdrop : rest.dropWhile Char.isDigit = rest := by
    cases rest with
    | nil => rfl
    | cons c rest => exact List.dropWhile_cons_of_neg (by simp [hrest c rfl])
  have hread : (padded width n ++ rest).length - rest.length = width := by
    rw [List.length_append, hlength, Nat.add_sub_cancel]
  rw [List.cons_append, takeFraction?, htake]
  simp only [Option.bind_eq_bind, Option.bind_some, Option.pure_def, hread, hdrop]
  rfl

theorem takeFraction?_fractionText (c : Clock) {rest : List Char}
    (hrest : ∀ d ∈ rest.head?, d.isDigit = false ∧ d ≠ '.') :
    takeFraction? (c.fractionText ++ rest) = some (c.nano, rest) := by
  have hnano := c.valid.2.2.2
  have hdigit : ∀ d ∈ rest.head?, d.isDigit = false := fun d hd => (hrest d hd).1
  unfold Clock.fractionText
  split_ifs with hzero hmilli hmicro
  · rw [hzero, List.nil_append, takeFraction?.eq_def]
    split
    · exact absurd rfl (hrest '.' rfl).2
    · rfl
  · rw [takeFraction?_point_padded (by decide) (by decide) (by omega) hdigit]
    have h : c.nano / 1000000 * 10 ^ (9 - 3) = c.nano := by omega
    rw [h]
  · rw [takeFraction?_point_padded (by decide) (by decide) (by omega) hdigit]
    have h : c.nano / 1000 * 10 ^ (9 - 6) = c.nano := by omega
    rw [h]
  · rw [takeFraction?_point_padded (by decide) (by decide) (by omega) hdigit]
    simp

/-! ### The whole -/

theorem Stamp.instant?_zero (t : Instant) : Stamp.instant? ⟨t.date, t.clock, 0⟩ = some t := by
  obtain ⟨hhour, hminute, -⟩ := t.clock.valid
  have hofDay : ((60 * (t.clock.hour : Int) + t.clock.minute - 0) % 1440).toNat =
      60 * t.clock.hour + t.clock.minute := by omega
  have hclock : Clock.of? ((60 * t.clock.hour + t.clock.minute) / 60)
      ((60 * t.clock.hour + t.clock.minute) % 60) t.clock.second t.clock.nano = some t.clock := by
    have hhour : (60 * t.clock.hour + t.clock.minute) / 60 = t.clock.hour := by omega
    have hminute : (60 * t.clock.hour + t.clock.minute) % 60 = t.clock.minute := by omega
    rw [hhour, hminute, Clock.of?_self]
  simp only [Stamp.instant?, hofDay, hclock]
  rw [if_neg (by omega), if_pos (by omega)]

theorem Date.bounds (d : Date) : d.month < 100 ∧ d.day < 100 := by
  have h := d.valid
  simp only [isDate, Bool.and_eq_true, decide_eq_true_eq] at h
  have hdays : daysInMonth d.year d.month ≤ 31 := by
    unfold daysInMonth
    split_ifs <;> decide
  omega

/-- A point in time is read from a document as it was written. -/
theorem Instant.read_zuluText (t : Instant) : Instant.read t.zuluText.toList = some t := by
  obtain ⟨hhour, hminute, hsecond, -⟩ := t.clock.valid
  obtain ⟨hmonth, hday⟩ := t.date.bounds
  have htext : t.zuluText.toList = yearText t.date.year ++ '-' :: (padded 2 t.date.month ++
      '-' :: (padded 2 t.date.day ++ 'T' :: (padded 2 t.clock.hour ++
        ':' :: (padded 2 t.clock.minute ++ ':' :: (padded 2 t.clock.second ++
          (t.clock.fractionText ++ ['Z'])))))) := by
    simp [Instant.zuluText, Instant.text, Date.text, Clock.text]
  have hyear : ∀ rest, takeYear? (yearText t.date.year ++ '-' :: rest) =
      some (t.date.year, '-' :: rest) :=
    fun rest => takeYear?_yearText t.date.year (by rintro c ⟨⟩; rfl)
  have hfraction : takeFraction? (t.clock.fractionText ++ ['Z']) = some (t.clock.nano, ['Z']) :=
    takeFraction?_fractionText t.clock (by rintro c ⟨⟩; decide)
  have hoffset : takeLenientOffset? (trimStart ['Z']) = some (0, []) := rfl
  rw [Instant.read, htext]
  refine Option.bind_eq_some_iff.2 ⟨_, hyear _, ?_⟩
  refine Option.bind_eq_some_iff.2 ⟨_, afterChar?_trimStart rfl _, ?_⟩
  refine Option.bind_eq_some_iff.2 ⟨_, takeLenient?_padded hmonth _, ?_⟩
  refine Option.bind_eq_some_iff.2 ⟨_, afterChar?_trimStart rfl _, ?_⟩
  refine Option.bind_eq_some_iff.2 ⟨_, takeLenient?_padded hday _, ?_⟩
  refine Option.bind_eq_some_iff.2 ⟨_, takeLenient?_padded (Nat.lt_trans hhour (by decide)) _, ?_⟩
  refine Option.bind_eq_some_iff.2 ⟨_, afterChar?_trimStart rfl _, ?_⟩
  refine Option.bind_eq_some_iff.2 ⟨_, takeLenient?_padded (Nat.lt_trans hminute (by decide)) _, ?_⟩
  refine Option.bind_eq_some_iff.2 ⟨_, afterChar?_trimStart rfl _, ?_⟩
  refine Option.bind_eq_some_iff.2
    ⟨_, takeLenient?_padded (Nat.lt_of_le_of_lt hsecond (by decide)) _, ?_⟩
  refine Option.bind_eq_some_iff.2 ⟨_, hfraction, ?_⟩
  refine Option.bind_eq_some_iff.2 ⟨_, hoffset, ?_⟩
  refine Option.bind_eq_some_iff.2 ⟨(), rfl, ?_⟩
  refine Option.bind_eq_some_iff.2 ⟨_, Date.of?_self t.date, ?_⟩
  refine Option.bind_eq_some_iff.2 ⟨_, Clock.of?_self t.clock, ?_⟩
  exact Stamp.instant?_zero t

end ReportRouting
