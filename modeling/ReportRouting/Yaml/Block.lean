import ReportRouting.Yaml.Gap

/-!
Block scalars: whole lines below a header.

The header tells how the line breaks at the end are treated and may give the indentation; if it
does not, the first line that is not empty does. A folded block joins lines as a gap does, except
around lines that begin with a blank.
-/

namespace ReportRouting.Yaml

inductive Chomping where
  | strip
  | clip
  | keep
  deriving DecidableEq, Repr

structure BlockHeader where
  chomping : Chomping
  increment : Option Nat
  deriving DecidableEq, Repr

def chomping? (c : Char) : Option Chomping :=
  if c = '+' then some .keep else if c = '-' then some .strip else none

/-- Takes the two parts of a header, which come in either order. -/
def takeHeader? (c : Cursor) : Option (BlockHeader × Cursor) :=
  match c.rest with
  | [] => some (⟨.clip, none⟩, c)
  | x :: rest =>
    match chomping? x with
    | some chomping =>
      match rest with
      | [] => some (⟨chomping, none⟩, c.skip 1)
      | d :: _ =>
        if d = '0' then none
        else if d.isDigit then some (⟨chomping, some (d.toNat - '0'.toNat)⟩, c.skip 2)
        else some (⟨chomping, none⟩, c.skip 1)
    | none =>
      if x = '0' then none
      else if x.isDigit then
        match rest.head?.bind chomping? with
        | some chomping => some (⟨chomping, some (x.toNat - '0'.toNat)⟩, c.skip 2)
        | none => some (⟨.clip, some (x.toNat - '0'.toNat)⟩, c.skip 1)
      else some (⟨.clip, none⟩, c)

def endLine? (c : Cursor) : Option Cursor :=
  let c := c.skipWhile isBlank
  let c := if c.rest.head? == some '#' then c.skipWhile (!isBreak ·) else c
  if c.rest.head?.all isBreak then some c.skipBreak else none

/-- Takes empty lines and the indentation of the next line, up to a column if one is given. The
line breaks come latest first; `deepest` is the largest indentation so far. -/
def takeEmptyLines? (indent : Option Nat) (breaks : List Char) (deepest : Nat) (c : Cursor) :
    Option (List Char × Nat × Cursor) :=
  match _h : c.rest with
  | [] => some (breaks, max deepest c.column, c)
  | x :: _ =>
    if isBlank x && indent.all (c.column < ·) then
      if x == '\t' then none
      else takeEmptyLines? indent breaks deepest (c.skip 1)
    else if isBreak x then
      takeEmptyLines? indent (breakChar x :: breaks) (max deepest c.column) (c.skipSeparator x)
    else some (breaks, max deepest c.column, c)
termination_by c.rest.length
decreasing_by
  · simp only [Cursor.length_skip, _h, List.length_cons]
    omega
  · exact Cursor.length_skipSeparator_lt _h

theorem length_of_takeEmptyLines? {indent : Option Nat} {breaks out : List Char}
    {deepest d : Nat} {c c' : Cursor}
    (h : takeEmptyLines? indent breaks deepest c = some (out, d, c')) :
    c'.rest.length ≤ c.rest.length := by
  fun_induction takeEmptyLines? indent breaks deepest c with
  | case1 => simp_all
  | case2 => simp at h
  | case3 _ _ c _ _ _ _ _ ih =>
    have := ih h
    have := Cursor.length_skip 1 c
    omega
  | case4 _ _ c x _ hc _ _ ih =>
    have := ih h
    have := Cursor.length_skipSeparator_lt hc
    omega
  | case5 => simp_all

/-- The text of a block so far, latest first, with the line breaks that follow it. -/
structure BlockText where
  text : List Char
  /-- The break that ends the last line. -/
  ended : List Char
  /-- The breaks of the empty lines below. -/
  empty : List Char
  blank : Bool
  deriving Repr

def BlockText.join (b : BlockText) (literal blank : Bool) : List Char :=
  if !literal && b.ended == ['\n'] && !b.blank && !blank then
    if b.empty.isEmpty then [' '] else b.empty
  else b.empty ++ b.ended

def BlockText.finish (b : BlockText) (chomping : Chomping) : List Char :=
  (match chomping with
    | .strip => b.text
    | .clip => b.ended ++ b.text
    | .keep => b.empty ++ b.ended ++ b.text).reverse

def takeLines? (literal : Bool) (indent : Nat) (b : BlockText) (c : Cursor) :
    Option (BlockText × Cursor) :=
  match _h : c.rest with
  | [] => some (b, c)
  | x :: rest =>
    if c.column != indent then some (b, c)
    else
      let more := rest.takeWhile (!isBreak ·)
      let atEnd := c.skip (more.length + 1)
      match _h' : takeEmptyLines? (some indent) [] 0 atEnd.skipBreak with
      | none => none
      | some (breaks, _, next) =>
        takeLines? literal indent
          { text := more.reverse ++ x :: (b.join literal (isBlank x) ++ b.text)
            ended := (atEnd.rest.head?.filter isBreak).toList.map breakChar
            empty := breaks
            blank := isBlank x } next
termination_by c.rest.length
decreasing_by
  have := length_of_takeEmptyLines? _h'
  have := Cursor.length_skipBreak_le atEnd
  have := Cursor.length_skip (more.length + 1) c
  simp only [_h, List.length_cons] at *
  grind

/-- Takes a block scalar from behind its mark. What is around it is indented to column `outer`, or
not at all. -/
def takeBlock? (literal : Bool) (outer : Option Nat) (c : Cursor) :
    Option (List Char × Cursor) := do
  let (header, c) ← takeHeader? c
  let c ← endLine? c
  let indent := header.increment.map (outer.getD 0 + ·)
  let (breaks, deepest, c) ← takeEmptyLines? indent [] 0 c
  let least := match outer with
    | some column => column + 1
    | none => 1
  let indent := indent.getD (max deepest least)
  let (b, c) ← takeLines? literal indent ⟨[], [], breaks, false⟩ c
  return (b.finish header.chomping, c)

end ReportRouting.Yaml
