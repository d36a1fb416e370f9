import ReportRouting.Decimal.Shortest
import ReportRouting.Document.Fault
import ReportRouting.Json.Basic

/-!
The values of numbers in JSON.

A number without fraction and exponent is an integer if it fits 64 bits. Any other number is a
double: the leading digits that fit 64 bits, times or divided by a power of ten.
-/

namespace ReportRouting.Json

inductive NumberValue where
  | unsigned (n : Nat)
  | negative (n : Int)
  | float (x : Float)
  /-- Beyond the range of doubles. -/
  | infinite

/-- Appends digits to a number as long as it fits 64 bits, and counts those left over. -/
def appendDigits (n : Nat) : List Char → Nat × Nat
  | [] => (n, 0)
  | c :: rest =>
    let m := 10 * n + (c.toNat - '0'.toNat)
    if m < UInt64.size then appendDigits m rest else (n, rest.length + 1)

def powerOfTen (e : Nat) : Float :=
  Float.ofScientific 1 false e

/-- Divides by a power of ten, by steps that are doubles themselves. -/
def divideByPower (x : Float) (e : Nat) : Float :=
  if e ≤ 308 then x / powerOfTen e
  else if x == 0 then x
  else divideByPower (x / powerOfTen 308) (e - 308)
termination_by e

/-- `n * 10 ^ e`, unless it is too large. -/
def scale (n : Nat) (e : Int) : NumberValue :=
  let x := Float.ofNat n
  if e < 0 then .float (divideByPower x e.natAbs)
  else if e ≤ 308 then
    let y := x * powerOfTen e.toNat
    if y.isInf then .infinite else .float y
  else if n = 0 then .float x
  else .infinite

def NumberValue.negate : NumberValue → NumberValue
  | float x => .float (-x)
  | v => v

def numberValue (n : Numeral) : NumberValue :=
  let (significand, left) := appendDigits 0 n.whole
  if n.fraction.isEmpty && n.exponent.isNone && left == 0 then
    if !n.negative then .unsigned significand
    else if significand = 0 ∨ Nat.pow 2 63 < significand then .float (-(Float.ofNat significand))
    else .negative (-(significand : Int))
  else
    let (significand, unused) := appendDigits significand n.fraction
    let places : Int := (left : Int) - (n.fraction.length - unused : Nat)
    let exponent : Int := match n.exponent with
      | none => 0
      | some (negative, ds) =>
        if negative then -(Text.ofDigits ds : Int) else Text.ofDigits ds
    let value := scale significand (places + exponent)
    if n.negative then value.negate else value

/-- A double as JSON shows it: positional where the leading digit has an exponent of -5 to 15. -/
def floatText : Float → String :=
  doubleText fun d =>
    if -5 ≤ d.leading ∧ d.leading ≤ 15 then d.positional else d.scientific

/-- What a number is found to be, unless it has no value. -/
def NumberValue.found? : NumberValue → Option Found
  | unsigned n => some (.integer n)
  | negative n => some (.integer n)
  | float x => some (.float (floatText x))
  | infinite => none

end ReportRouting.Json
