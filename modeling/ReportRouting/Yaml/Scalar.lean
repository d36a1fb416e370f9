import ReportRouting.Decimal.Shortest
import ReportRouting.Document.Fault

/-!
The values of plain scalars.

A plain scalar is null, a boolean, an integer, a double, or else a text. Digits behind a leading
zero are a text.
-/

namespace ReportRouting.Yaml

def isNull (s : String) : Bool :=
  ["null", "Null", "NULL", "~"].contains s

def bool? (s : String) : Option Bool :=
  if ["true", "True", "TRUE"].contains s then some true
  else if ["false", "False", "FALSE"].contains s then some false
  else none

/-! ### Integers -/

def digitsIn? (base : Nat) (s : List Char) : Option Nat :=
  if s.isEmpty then none
  else
    s.foldlM (fun n c => do
      let d ← Text.hexValue? c
      guard (d < base)
      return base * n + d) 0

def takeBase? : List Char → Option (Nat × List Char)
  | '0' :: 'x' :: rest => some (16, rest)
  | '0' :: 'o' :: rest => some (8, rest)
  | '0' :: 'b' :: rest => some (2, rest)
  | _ => none

def dropSign (s : List Char) : List Char :=
  match s with
  | c :: rest => if c = '+' ∨ c = '-' then rest else s
  | [] => []

/-- Whether a text is digits that do not write a number, with a zero in front. -/
def isPadded (s : List Char) : Bool :=
  let s := dropSign s
  1 < s.length && s.head? == some '0' && s.all Char.isDigit

def magnitude? (s : List Char) : Option Nat :=
  match takeBase? s with
  | some (base, rest) => digitsIn? base rest
  | none => if isPadded s then none else digitsIn? 10 s

/-- The integer that a text writes, and whether it has a minus sign. -/
def signed? (s : List Char) : Option (Bool × Nat) :=
  match s with
  | '-' :: rest => (magnitude? rest).map fun n => (true, n)
  | '+' :: rest => (magnitude? rest).map fun n => (false, n)
  | s => (magnitude? s).map fun n => (false, n)

/-- The integer that a text writes without a minus sign, if it fits 64 bits. -/
def count? (s : String) : Option UInt64 :=
  match signed? s.toList with
  | some (false, n) => if n < UInt64.size then some (UInt64.ofNat n) else none
  | _ => none

/-- An integer that a text writes, of 64 bits or else of 128. -/
def integer? (s : String) : Option Found :=
  match signed? s.toList with
  | some (false, n) =>
    if n < UInt64.size then some (.integer n)
    else if n < Nat.pow 2 128 then some (.wideInteger n "u128")
    else none
  | some (true, n) =>
    if n ≤ Nat.pow 2 63 then some (.integer (-n))
    else if n ≤ Nat.pow 2 127 then some (.wideInteger (-n) "i128")
    else none
  | none => none

/-! ### Doubles -/

structure Scientific where
  negative : Bool
  digits : List Char
  places : Nat
  exponent : Int
  deriving DecidableEq, Repr

def exponent? : List Char → Option Int
  | [] => some 0
  | c :: rest =>
    if c = 'e' ∨ c = 'E' then
      let ds := dropSign rest
      if ds.isEmpty || !ds.all Char.isDigit then none
      else
        let n : Int := Text.ofDigits ds
        some (if rest.head? = some '-' then -n else n)
    else none

def scientific? (s : List Char) : Option Scientific := do
  let body := dropSign s
  let whole := body.takeWhile Char.isDigit
  let rest := body.drop whole.length
  let (fraction, rest) :=
    match rest with
    | '.' :: rest => (rest.takeWhile Char.isDigit, rest.dropWhile Char.isDigit)
    | rest => ([], rest)
  guard !(whole.isEmpty && fraction.isEmpty)
  return ⟨s.head? == some '-', whole ++ fraction, fraction.length, ← exponent? rest⟩

/-- The double nearest to a number, unless it is too large. -/
def Scientific.double? (x : Scientific) : Option Float :=
  let ds := x.digits.dropWhile (· == '0')
  let scale := x.exponent - x.places
  let leading := scale + ds.length
  let y : Option Float :=
    if ds.isEmpty || leading < -400 then some 0
    else if 400 < leading then none
    else
      let n := Text.ofDigits ds
      let y :=
        if scale < 0 then Float.ofScientific n true scale.natAbs
        else Float.ofScientific n false scale.toNat
      if y.isInf then none else some y
  if x.negative then y.map (-·) else y

/-- The text of the double that a text writes: positional, however large it is. -/
def float? (s : String) : Option String :=
  if [".inf", ".Inf", ".INF", "+.inf", "+.Inf", "+.INF"].contains s then some "inf"
  else if ["-.inf", "-.Inf", "-.INF"].contains s then some "-inf"
  else if [".nan", ".NaN", ".NAN"].contains s then some "NaN"
  else (scientific? s.toList).bind fun x => x.double?.map (doubleText Decimal.positional)

def plainValue (s : String) : Found :=
  if s.isEmpty || isNull s then .unit
  else
    match bool? s, integer? s with
    | some b, _ => .bool b
    | none, some n => n
    | none, none =>
      if isPadded s.toList then .text s
      else
        match float? s with
        | some t => .float t
        | none => .text s

end ReportRouting.Yaml
