/-!
Places in a text, and the kinds of characters that YAML tells apart.
-/

namespace ReportRouting.Yaml

/-! ### Kinds of characters -/

def isBlank (c : Char) : Bool :=
  c == ' ' || c == '\t'

def isBreak (c : Char) : Bool :=
  c == '\n' || c == '\r' || c == '\u0085' || c == '\u2028' || c == '\u2029'

def isSeparator (c : Char) : Bool :=
  isBlank c || isBreak c

def isNameChar (c : Char) : Bool :=
  c.isAlphanum || c == '_' || c == '-'

/-- What a line break stands for in a text: the separators of lines and paragraphs are kept, any
other break is a newline. -/
def breakChar (c : Char) : Char :=
  if c == '\u2028' || c == '\u2029' then c else '\n'

def atWordEnd : List Char → Bool
  | [] => true
  | c :: _ => isSeparator c

def atRule (mark : Char) : List Char → Bool
  | a :: b :: c :: rest => a == mark && b == mark && c == mark && atWordEnd rest
  | _ => false

def atDocumentMark (s : List Char) : Bool :=
  atRule '-' s || atRule '.' s

/-! ### Places -/

/-- A place in a text: what follows, how many characters are before it, and where it is. -/
structure Cursor where
  rest : List Char
  index : Nat
  line : Nat
  column : Nat
  deriving Repr

namespace Cursor

def start (s : List Char) : Cursor :=
  ⟨s, 0, 0, 0⟩

def skip (n : Nat) (c : Cursor) : Cursor :=
  ⟨c.rest.drop n, c.index + n, c.line, c.column + n⟩

def skipWhile (p : Char → Bool) (c : Cursor) : Cursor :=
  c.skip (c.rest.takeWhile p).length

def skipBreak (c : Cursor) : Cursor :=
  match c.rest with
  | '\r' :: '\n' :: rest => ⟨rest, c.index + 2, c.line + 1, 0⟩
  | b :: rest => if isBreak b then ⟨rest, c.index + 1, c.line + 1, 0⟩ else c
  | [] => c

/-! ### Going on leaves less -/

theorem length_skip (n : Nat) (c : Cursor) : (c.skip n).rest.length = c.rest.length - n := by
  simp [skip]

theorem length_skipBreak_le (c : Cursor) : c.skipBreak.rest.length ≤ c.rest.length := by
  unfold skipBreak
  split <;> grind

theorem length_skipBreak_lt {c : Cursor} {b : Char} {rest : List Char} (h : c.rest = b :: rest)
    (hb : isBreak b = true) : c.skipBreak.rest.length < c.rest.length := by
  unfold skipBreak
  split <;> grind

end Cursor

end ReportRouting.Yaml
