import ReportRouting.Text.Visible

/-!
Texts shown in double quotes.

A quote and a backslash get a backslash in front, five characters have a letter of their own, and
every other unseen character is written as its code point in braces, so that a quoted text is one
line and can be read back.
-/

namespace ReportRouting.Text

/-- A number in hexadecimal, with the small letters and without leading zeros. -/
def hexDigits (n : Nat) : List Char :=
  Nat.toDigits 16 n

/-- One character between the quotes. -/
def quotedChar (c : Char) : List Char :=
  if c = '"' then ['\\', '"']
  else if c = '\\' then ['\\', '\\']
  else if c = '\n' then ['\\', 'n']
  else if c = '\r' then ['\\', 'r']
  else if c = '\t' then ['\\', 't']
  else if c.toNat = 0 then ['\\', '0']
  else if isSeen c then [c]
  else ['\\', 'u', '\x7b'] ++ hexDigits c.toNat ++ ['\x7d']

def quotedChars (s : List Char) : List Char :=
  '"' :: s.flatMap quotedChar ++ ['"']

def quoted (s : String) : String :=
  String.ofList (quotedChars s.toList)

@[simp] theorem toList_quoted (s : String) : (quoted s).toList = quotedChars s.toList := by
  simp [quoted]

end ReportRouting.Text
