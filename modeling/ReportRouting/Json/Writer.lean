import ReportRouting.Json.Basic

/-!
Writing JSON, without any space between the words.

In a text the quote, the backslash and the control characters below the space are escaped; all
other characters stand for themselves.
-/

namespace ReportRouting.Json

/-- A digit to the base 16, in small letters. -/
def hexDigit (n : Nat) : Char :=
  Nat.digitChar n

/-- One character between the quotes. -/
def writeChar (c : Char) : List Char :=
  if c = '"' then ['\\', '"']
  else if c = '\\' then ['\\', '\\']
  else if c = '\x08' then ['\\', 'b']
  else if c = '\x0c' then ['\\', 'f']
  else if c = '\n' then ['\\', 'n']
  else if c = '\r' then ['\\', 'r']
  else if c = '\t' then ['\\', 't']
  else if c.toNat < 0x20 then
    ['\\', 'u', '0', '0', hexDigit (c.toNat / 16), hexDigit (c.toNat % 16)]
  else [c]

def writeText (s : String) : List Char :=
  '"' :: s.toList.flatMap writeChar ++ ['"']

def writeNumeral (n : Numeral) : List Char :=
  (if n.negative then ['-'] else []) ++ n.whole
    ++ (if n.fraction.isEmpty then [] else '.' :: n.fraction)
    ++ match n.exponent with
      | none => []
      | some (negative, ds) => 'e' :: (if negative then '-' :: ds else ds)

mutual

def write : Json → List Char
  | .null => "null".toList
  | .bool true => "true".toList
  | .bool false => "false".toList
  | .number n => writeNumeral n
  | .text s => writeText s
  | .array items _ => '[' :: writeItems items ++ [']']
  | .object members _ => '\x7b' :: writeMembers members ++ ['\x7d']
  | .mangled | .keyed _ | .broken => []

def writeItems : List Json → List Char
  | [] => []
  | [v] => write v
  | v :: w :: rest => write v ++ ',' :: writeItems (w :: rest)

def writeMember : Option String × Json → List Char
  | (name, v) => writeText (name.getD "") ++ ':' :: write v

def writeMembers : List (Option String × Json) → List Char
  | [] => []
  | [m] => writeMember m
  | m :: n :: rest => writeMember m ++ ',' :: writeMembers (n :: rest)

end

def render (v : Json) : String :=
  String.ofList (write v)

end ReportRouting.Json
