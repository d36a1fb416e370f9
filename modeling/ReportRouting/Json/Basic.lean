import ReportRouting.Text.Digits

/-!
JSON documents, whole or cut short.

A text that stops being JSON at some point still holds the values before that point. So the tree
of a text keeps what was read, and says of every array and object whether its end was reached; a
value that could not be read is `broken`. In the tree of a whole document nothing is broken and
all is closed.
-/

namespace ReportRouting

/-- A number as it is written: digits before the point, behind it, and of the exponent. -/
structure Numeral where
  negative : Bool
  whole : List Char
  fraction : List Char
  exponent : Option (Bool × List Char)
  deriving DecidableEq, Repr

def Numeral.ofNat (n : Nat) : Numeral :=
  ⟨false, Text.digits n, [], none⟩

inductive Json where
  | null
  | bool (b : Bool)
  | number (n : Numeral)
  | text (s : String)
  /-- A text with half of a surrogate pair in it. -/
  | mangled
  | array (items : List Json) (closed : Bool)
  /-- The name of a member is missing where it is mangled. -/
  | object (members : List (Option String × Json)) (closed : Bool)
  /-- An object whose first name is no text. -/
  | keyed (name : Json)
  | broken
  deriving Repr

end ReportRouting
