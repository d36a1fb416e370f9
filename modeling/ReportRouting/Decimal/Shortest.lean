import ReportRouting.Text.Digits

/-!
The shortest decimal that reads back as a given double.

A finite double is `m * 2 ^ q`, and the reals that round to it form an interval around it, with
the ends when `m` is even. Among the decimals `g * 10 ^ k` in the interval, those with the largest
`k` have the fewest digits; the one nearest to the double is taken.
-/

namespace ReportRouting

structure Decimal where
  digits : Nat
  exponent : Int
  deriving DecidableEq, Repr

/-- The positive double `m * 2 ^ q`; `low` says that the double below is only half as far away as
the one above. -/
structure Binary where
  m : Nat
  q : Int
  low : Bool
  deriving DecidableEq, Repr

namespace Binary

def ofBits (bits : Nat) : Binary :=
  let fraction := bits % Nat.pow 2 52
  let exponent := bits / Nat.pow 2 52 % Nat.pow 2 11
  if exponent = 0 then ⟨fraction, -1074, false⟩
  else ⟨fraction + Nat.pow 2 52, (exponent : Int) - 1075, fraction == 0 && exponent != 1⟩

/-- How far apart `g * 10 ^ k` and `x / 4 * 2 ^ q` are, both as multiples of one unit. -/
def scaled (b : Binary) (k : Int) (g x : Nat) : Nat × Nat :=
  let e := b.q - 2
  (g * Nat.pow 10 k.toNat * Nat.pow 2 (-e).toNat,
    x * Nat.pow 2 e.toNat * Nat.pow 10 (-k).toNat)

def holds (b : Binary) (k : Int) (g : Nat) : Bool :=
  let (lower, low) := b.scaled k g (4 * b.m - if b.low then 1 else 2)
  let (upper, high) := b.scaled k g (4 * b.m + 2)
  if b.m % 2 == 0 then low ≤ lower && upper ≤ high else low < lower && upper < high

def onGrid? (b : Binary) (k : Int) : Option Nat :=
  let (unit, value) := b.scaled k 1 (4 * b.m)
  let g := value / unit
  if g != 0 && b.holds k g then
    if b.holds k (g + 1) && unit < 2 * (value % unit) then some (g + 1) else some g
  else if b.holds k (g + 1) then some (g + 1)
  else none

/-- Tries the grids from `10 ^ (n - 345)` down. -/
def shortestFrom (b : Binary) : Nat → Decimal
  | 0 => ⟨0, 0⟩
  | n + 1 =>
    let k : Int := n - 344
    match b.onGrid? k with
    | some g => ⟨g, k⟩
    | none => b.shortestFrom n

def shortest (b : Binary) : Decimal :=
  b.shortestFrom 655

end Binary

namespace Decimal

open Text

def leading (d : Decimal) : Int :=
  d.exponent + (Text.digits d.digits).length - 1

def positional (d : Decimal) : List Char :=
  let ds := Text.digits d.digits
  if 0 ≤ d.exponent then ds ++ List.replicate d.exponent.toNat '0' ++ ['.', '0']
  else
    let places := d.exponent.natAbs
    let ds := List.replicate (places + 1 - ds.length) '0' ++ ds
    ds.take (ds.length - places) ++ '.' :: ds.drop (ds.length - places)

/-- One digit before the point and the exponent with its sign in two digits at least. -/
def scientific (d : Decimal) : List Char :=
  let e := d.leading
  let mantissa := match Text.digits d.digits with
    | [] => []
    | [c] => [c]
    | c :: rest => c :: '.' :: rest
  mantissa ++ 'e' :: (if e < 0 then '-' else '+') :: padded 2 e.natAbs

end Decimal

def doubleText (form : Decimal → List Char) (x : Float) : String :=
  let bits := x.toBits.toNat
  let sign := if bits < Nat.pow 2 63 then [] else ['-']
  let magnitude :=
    if bits % Nat.pow 2 63 = 0 then ['0', '.', '0'] else form (Binary.ofBits bits).shortest
  String.ofList (sign ++ magnitude)

end ReportRouting
