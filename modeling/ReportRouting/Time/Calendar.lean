/-!
Dates of the Gregorian calendar, carried on before its first year and past the year 9999.

The year before the year 1 is the year 0. Dates reach from the year -262143 to the year 262142.
-/

namespace ReportRouting

def isLeapYear (year : Int) : Bool :=
  year % 4 == 0 && (year % 100 != 0 || year % 400 == 0)

def daysInMonth (year : Int) (month : Nat) : Nat :=
  if month == 2 then if isLeapYear year then 29 else 28
  else if month == 4 || month == 6 || month == 9 || month == 11 then 30
  else 31

def isDate (year : Int) (month day : Nat) : Bool :=
  decide (-262143 ≤ year) && decide (year ≤ 262142) && decide (1 ≤ month) && decide (month ≤ 12)
    && decide (1 ≤ day) && decide (day ≤ daysInMonth year month)

structure Date where
  year : Int
  month : Nat
  day : Nat
  valid : isDate year month day = true
  deriving DecidableEq

namespace Date

def of? (year : Int) (month day : Nat) : Option Date :=
  if h : isDate year month day = true then some ⟨year, month, day, h⟩ else none

@[simp] theorem of?_self (d : Date) : of? d.year d.month d.day = some d := by
  simp [of?, d.valid]

def next? (d : Date) : Option Date :=
  if d.day < daysInMonth d.year d.month then of? d.year d.month (d.day + 1)
  else if d.month < 12 then of? d.year (d.month + 1) 1
  else of? (d.year + 1) 1 1

def previous? (d : Date) : Option Date :=
  if 1 < d.day then of? d.year d.month (d.day - 1)
  else if 1 < d.month then of? d.year (d.month - 1) (daysInMonth d.year (d.month - 1))
  else of? (d.year - 1) 12 31

/-- Days from the first of January of the year 1, a Monday. -/
def dayNumber (d : Date) : Int :=
  let y := d.year - 1
  let months := (List.range (d.month - 1)).foldl (fun n m => n + daysInMonth d.year (m + 1)) 0
  365 * y + y / 4 - y / 100 + y / 400 + (months : Nat) + d.day - 1

def weekday (d : Date) : Nat :=
  (d.dayNumber % 7).toNat

end Date

/-- A time of day. The second number 60 is a leap second. -/
structure Clock where
  hour : Nat
  minute : Nat
  second : Nat
  nano : Nat
  valid : hour < 24 ∧ minute < 60 ∧ second ≤ 60 ∧ nano < 1000000000
  deriving DecidableEq

namespace Clock

def of? (hour minute second nano : Nat) : Option Clock :=
  if h : hour < 24 ∧ minute < 60 ∧ second ≤ 60 ∧ nano < 1000000000 then
    some ⟨hour, minute, second, nano, h⟩
  else none

@[simp] theorem of?_self (c : Clock) : of? c.hour c.minute c.second c.nano = some c := by
  simp [of?, c.valid]

end Clock

structure Instant where
  date : Date
  clock : Clock
  deriving DecidableEq

def Instant.epoch : Instant :=
  ⟨⟨1970, 1, 1, by decide⟩, ⟨0, 0, 0, 0, by decide⟩⟩

/-- A point in time, as clocks show it that are some minutes ahead of the zero meridian. -/
structure Stamp where
  date : Date
  clock : Clock
  ahead : Int
  deriving DecidableEq

/-- The same point in time at the zero meridian; a leap second stays one. -/
def Stamp.instant? (s : Stamp) : Option Instant :=
  let minutes : Int := 60 * s.clock.hour + s.clock.minute - s.ahead
  let ofDay := (minutes % 1440).toNat
  let date := if minutes < 0 then s.date.previous?
    else if minutes < 1440 then some s.date
    else s.date.next?
  match date, Clock.of? (ofDay / 60) (ofDay % 60) s.clock.second s.clock.nano with
  | some date, some clock => some ⟨date, clock⟩
  | _, _ => none

end ReportRouting
