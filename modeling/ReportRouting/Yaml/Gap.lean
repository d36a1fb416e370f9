import ReportRouting.Yaml.Cursor

/-!
Gaps between the words of a scalar.

A gap within a line stands for its blanks. A gap that reaches over lines is folded: its first line
break stands for a space if no other follows and for nothing otherwise, unless it separates lines
or paragraphs, and the blanks around it are dropped.
-/

namespace ReportRouting.Yaml

/-- What has been seen of a gap, latest first; `first` is its first line break. -/
structure Gap where
  blanks : List Char
  broken : Bool
  first : Option Char
  later : List Char
  deriving DecidableEq, Repr

namespace Gap

def empty : Gap :=
  ⟨[], false, none, []⟩

/-- A gap after a line break that counts for nothing. -/
def escaped : Gap :=
  ⟨[], true, none, []⟩

def isEmpty (g : Gap) : Bool :=
  g.blanks.isEmpty && !g.broken

def addBlank (g : Gap) (c : Char) : Gap :=
  if g.broken then g else { g with blanks := c :: g.blanks }

def addBreak (g : Gap) (c : Char) : Gap :=
  if g.broken then { g with later := breakChar c :: g.later }
  else { g with blanks := [], broken := true, first := some (breakChar c) }

def fold (g : Gap) : List Char :=
  if !g.broken then g.blanks
  else
    match g.first with
    | none => g.later
    | some b =>
      if b = '\n' then (if g.later.isEmpty then [' '] else g.later) else g.later ++ [b]

end Gap

def Cursor.skipSeparator (c : Cursor) (x : Char) : Cursor :=
  if isBreak x then c.skipBreak else c.skip 1

def Gap.add (g : Gap) (x : Char) : Gap :=
  if isBreak x then g.addBreak x else g.addBlank x

theorem Cursor.length_skipSeparator_lt {c : Cursor} {x : Char} {rest : List Char}
    (h : c.rest = x :: rest) : (c.skipSeparator x).rest.length < c.rest.length := by
  unfold skipSeparator
  split
  · next hb => exact length_skipBreak_lt h hb
  · simp [length_skip, h]

end ReportRouting.Yaml
