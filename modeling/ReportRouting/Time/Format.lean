import ReportRouting.Text.Digits
import ReportRouting.Time.Calendar

/-!
How points in time are written.

Records show date, time and offset apart by spaces. Documents hold the form of RFC 3339, with the
fraction of a second in three, six or nine digits where there is one; a year outside of 0 to 9999
has a sign. Mails bear the form of RFC 2822.
-/

namespace ReportRouting

open Text

/-- At least four digits, behind a sign if the year has no four digits of its own. -/
def yearText (year : Int) : List Char :=
  if 0 ≤ year ∧ year ≤ 9999 then padded 4 year.toNat
  else (if year < 0 then '-' else '+') :: padded 4 year.natAbs

def Date.text (d : Date) : List Char :=
  yearText d.year ++ '-' :: padded 2 d.month ++ '-' :: padded 2 d.day

def Clock.text (c : Clock) : List Char :=
  padded 2 c.hour ++ ':' :: padded 2 c.minute ++ ':' :: padded 2 c.second

/-- The fraction of the second: nothing, or a point and the fewest of 3, 6 and 9 digits. -/
def Clock.fractionText (c : Clock) : List Char :=
  if c.nano = 0 then []
  else if c.nano % 1000000 = 0 then '.' :: padded 3 (c.nano / 1000000)
  else if c.nano % 1000 = 0 then '.' :: padded 6 (c.nano / 1000)
  else '.' :: padded 9 c.nano

namespace Instant

def text (t : Instant) : List Char :=
  t.date.text ++ 'T' :: t.clock.text ++ t.clock.fractionText

def offsetText (t : Instant) : String :=
  String.ofList (t.text ++ "+00:00".toList)

/-- RFC 3339 with the offset as a letter, as documents hold it. -/
def zuluText (t : Instant) : String :=
  String.ofList (t.text ++ ['Z'])

def spacedText (t : Instant) : String :=
  String.ofList (t.date.text ++ ' ' :: t.clock.text ++ " +0000".toList)

end Instant

def weekdayNames : List String :=
  ["Mon", "Tue", "Wed", "Thu", "Fri", "Sat", "Sun"]

def monthNames : List String :=
  ["Jan", "Feb", "Mar", "Apr", "May", "Jun", "Jul", "Aug", "Sep", "Oct", "Nov", "Dec"]

def aheadText (ahead : Int) : List Char :=
  (if ahead < 0 then '-' else '+') :: padded 2 (ahead.natAbs / 60) ++ padded 2 (ahead.natAbs % 60)

def Stamp.mailText (s : Stamp) : String :=
  String.ofList ((weekdayNames.getD s.date.weekday "").toList ++ ", ".toList
    ++ digits s.date.day ++ ' ' :: (monthNames.getD (s.date.month - 1) "").toList
    ++ ' ' :: yearText s.date.year ++ ' ' :: s.clock.text ++ ' ' :: aheadText s.ahead)

end ReportRouting
