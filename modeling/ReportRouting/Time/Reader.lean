import ReportRouting.Text.Blank
import ReportRouting.Text.Digits
import ReportRouting.Time.Calendar

/-!
Reading points in time.

`Stamp.readStrict` takes the form of RFC 3339 to the letter. `Instant.read` is lenient, as the
times in documents are: every part may have blanks in front, a number may have fewer digits than
its place, a year may have a sign and then any number of digits, and the offset may be written in
several ways.
-/

namespace ReportRouting

open Text

def afterChar? (c : Char) : List Char → Option (List Char)
  | [] => none
  | d :: rest => if d = c then some rest else none

/-! ### Parts -/

/-- A fraction of a second, up to the ninth digit; further digits are passed over. -/
def takeFraction? (s : List Char) : Option (Nat × List Char) :=
  match s with
  | '.' :: rest => do
    let (n, after) ← takeNumber? 9 rest
    let width := rest.length - after.length
    return (n * Nat.pow 10 (9 - width), after.dropWhile Char.isDigit)
  | _ => some (0, s)

def takeOffset? (separator : List Char → Option (List Char)) (s : List Char) :
    Option (Int × List Char) :=
  match s with
  | sign :: h₁ :: h₂ :: rest => do
    let negative ← if sign == '+' then some false
      else if sign == '-' || sign == '\u2212' then some true
      else none
    guard (h₁.isDigit && h₂.isDigit)
    match ← separator rest with
    | m₁ :: m₂ :: rest =>
      guard (m₁.isDigit && m₂.isDigit)
      let hours := ofDigits [h₁, h₂]
      let minutes := ofDigits [m₁, m₂]
      guard (hours < 24 && minutes < 60)
      let ahead : Int := 60 * hours + minutes
      return (if negative then -ahead else ahead, rest)
    | _ => none
  | _ => none

/-! ### The strict form -/

def takeExact? (width : Nat) (s : List Char) : Option (Nat × List Char) := do
  let (n, rest) ← takeNumber? width s
  guard (s.length - rest.length = width)
  return (n, rest)

def Stamp.readStrict (s : List Char) : Option Stamp := do
  let (year, s) ← takeExact? 4 s
  let (month, s) ← takeExact? 2 (← afterChar? '-' s)
  let (day, s) ← takeExact? 2 (← afterChar? '-' s)
  let s ← match s with
    | c :: rest => if c == 'T' || c == 't' || c == ' ' then some rest else none
    | [] => none
  let (hour, s) ← takeExact? 2 s
  let (minute, s) ← takeExact? 2 (← afterChar? ':' s)
  let (second, s) ← takeExact? 2 (← afterChar? ':' s)
  let (nano, s) ← takeFraction? s
  let (ahead, s) ← match s with
    | c :: rest => if c == 'Z' || c == 'z' then some (0, rest) else takeOffset? (afterChar? ':') s
    | [] => none
  guard s.isEmpty
  return { date := ← Date.of? year month day, clock := ← Clock.of? hour minute second nano, ahead }

/-! ### The lenient form -/

def takeLenient? (width : Nat) (s : List Char) : Option (Nat × List Char) :=
  takeNumber? width (trimStart s)

/-- Any number of digits behind a sign, or up to four digits. -/
def takeYear? (s : List Char) : Option (Int × List Char) :=
  match trimStart s with
  | '-' :: rest => (takeNumber? rest.length rest).map fun p => (-(p.1 : Int), p.2)
  | '+' :: rest => (takeNumber? rest.length rest).map fun p => ((p.1 : Int), p.2)
  | s => (takeNumber? 4 s).map fun p => ((p.1 : Int), p.2)

/-- The letters `UTC` or `Z` in either case, or hours and minutes with colons or blanks between. -/
def takeLenientOffset? (s : List Char) : Option (Int × List Char) :=
  if (s.take 3).map Char.toUpper == ['U', 'T', 'C'] then some (0, s.drop 3)
  else
    match s with
    | c :: rest =>
      if c == 'Z' || c == 'z' then some (0, rest)
      else takeOffset? (fun s => some (s.dropWhile fun c => c == ':' || isBlank c)) s
    | [] => none

def Instant.read (s : List Char) : Option Instant := do
  let (year, s) ← takeYear? s
  let (month, s) ← takeLenient? 2 (← afterChar? '-' (trimStart s))
  let (day, s) ← takeLenient? 2 (← afterChar? '-' (trimStart s))
  let s ← match s with
    | c :: rest => if c == 'T' || c == 't' || c == ' ' then some rest else none
    | [] => none
  let (hour, s) ← takeLenient? 2 s
  let (minute, s) ← takeLenient? 2 (← afterChar? ':' (trimStart s))
  let (second, s) ← takeLenient? 2 (← afterChar? ':' (trimStart s))
  let (nano, s) ← takeFraction? s
  let (ahead, s) ← takeLenientOffset? (trimStart s)
  guard (trimStart s).isEmpty
  let stamp : Stamp :=
    { date := ← Date.of? year month day, clock := ← Clock.of? hour minute second nano, ahead }
  stamp.instant?

end ReportRouting
