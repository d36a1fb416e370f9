import ReportRouting.Yaml.Plain
import ReportRouting.Yaml.Quoted
import ReportRouting.Yaml.Source
import ReportRouting.Yaml.Tag

/-!
The words of a text.

A word that may turn out to be the key of a mapping is known to be one only when its colon is
found, on the same line and not too far away. Till then it is pending, and no word from it on is
given away: a text that turns out to be no YAML has only the words given away before.
-/

namespace ReportRouting.Yaml

/-- A word that may be a key. -/
structure Pending where
  /-- How many words are before it. -/
  number : Nat
  index : Nat
  line : Nat
  column : Nat
  /-- Whether the indentation leaves it nothing but to be a key. -/
  required : Bool
  deriving Repr

structure Lexer where
  cursor : Cursor
  whole : Bool
  /-- The column of the innermost block, or -1. -/
  indent : Int
  outer : List Int
  /-- What is pending in the innermost flow collection, or in the block outside of any. -/
  pending : Option Pending
  around : List (Option Pending)
  keyAllowed : Bool
  found : List Token
  count : Nat
  /-- How many words were given away. -/
  given : Nat

namespace Lexer

def start (source : Source) : Lexer where
  cursor := .start source.text
  whole := source.whole
  indent := -1
  outer := []
  pending := none
  around := []
  keyAllowed := true
  found := []
  count := 0
  given := 0

def inFlow (l : Lexer) : Bool :=
  !l.around.isEmpty

def push (l : Lexer) (t : Token) : Lexer :=
  { l with found := t :: l.found, count := l.count + 1 }

def insert (l : Lexer) (number : Nat) (t : Token) : Lexer :=
  { l with found := l.found.insertIdx (l.count - number) t, count := l.count + 1 }

def moveTo (l : Lexer) (c : Cursor) : Lexer :=
  { l with cursor := c }

def pushAt (l : Lexer) (word : Token × Cursor) : Lexer :=
  (l.push word.1).moveTo word.2

/-! ### Pending keys -/

/-- Gives up a pending key, which must not be a required one. -/
def dropPending (l : Lexer) : Option Lexer :=
  if l.pending.any (·.required) then none else some { l with pending := none }

def savePending (l : Lexer) : Option Lexer :=
  if l.keyAllowed then do
    let l ← l.dropPending
    let c := l.cursor
    let required := !l.inFlow && l.indent == c.column
    return { l with pending := some ⟨l.count, c.index, c.line, c.column, required⟩ }
  else some l

/-- Whether a pending word is too far away to be a key. -/
def isStale (c : Cursor) (p : Pending) : Bool :=
  p.line < c.line || p.index + 1024 < c.index

def dropStale (l : Lexer) : Option Lexer :=
  let stale := isStale l.cursor
  if (l.pending :: l.around).any (·.any fun p => stale p && p.required) then none
  else
    let keep (p : Option Pending) := p.filter (!stale ·)
    some { l with pending := keep l.pending, around := l.around.map keep }

/-! ### Indentation -/

/-- Opens a block at a column, before the word that is `number`, unless it is open. -/
def openBlock (l : Lexer) (column number : Nat) (t : Token) : Lexer :=
  if !l.inFlow && l.indent < column then
    { l with indent := column, outer := l.indent :: l.outer }.insert number t
  else l

def closeBlocksFrom (column : Int) : List Int → Lexer → Lexer
  | [], l => l
  | next :: outer, l =>
    if column < l.indent then
      closeBlocksFrom column outer { l.push .blockEnd with indent := next, outer := outer }
    else l

def closeBlocks (l : Lexer) (column : Int) : Lexer :=
  if l.inFlow then l else closeBlocksFrom column l.outer l

/-! ### Between words -/

def skipToWord (flow keyAllowed : Bool) (c : Cursor) : Bool × Cursor :=
  match _h : c.rest with
  | [] => (keyAllowed, c)
  | x :: _ =>
    if x == ' ' || (x == '\t' && (flow || !keyAllowed)) || (x == byteOrderMark && c.column == 0)
    then skipToWord flow keyAllowed (c.skip 1)
    else if x == '#' then skipToWord flow keyAllowed ((c.skip 1).skipWhile (!isBreak ·))
    else if isBreak x then skipToWord flow (keyAllowed || !flow) (c.skipSeparator x)
    else (keyAllowed, c)
termination_by c.rest.length
decreasing_by
  · simp only [Cursor.length_skip, _h, List.length_cons]
    omega
  · simp only [Cursor.skipWhile, Cursor.length_skip, _h, List.length_cons]
    omega
  · exact Cursor.length_skipSeparator_lt _h

/-! ### Words -/

def leaveDocument (l : Lexer) : Option Lexer := do
  let l ← (l.closeBlocks (-1)).dropPending
  return { l with keyAllowed := false }

def endStream (l : Lexer) : Option Lexer := do
  return (← l.leaveDocument).push .streamEnd

def directive (l : Lexer) : Option Lexer := do
  let l ← l.leaveDocument
  return l.pushAt (← takeDirective? l.cursor)

def documentMark (l : Lexer) (t : Token) : Option Lexer := do
  let l ← l.leaveDocument
  return l.pushAt (t, l.cursor.skip 3)

def openFlow (l : Lexer) (t : Token) : Option Lexer := do
  let l ← l.savePending
  return { l with around := l.pending :: l.around, pending := none, keyAllowed := true }.pushAt
    (t, l.cursor.skip 1)

def closeFlow (l : Lexer) (t : Token) : Option Lexer := do
  let l ← l.dropPending
  let l := match l.around with
    | [] => l
    | p :: around => { l with pending := p, around }
  return { l with keyAllowed := false }.pushAt (t, l.cursor.skip 1)

def comma (l : Lexer) : Option Lexer := do
  let l ← l.dropPending
  return { l with keyAllowed := true }.pushAt (.comma, l.cursor.skip 1)

/-- Opens a block whose first word stands here, where a block may begin. -/
def openBlockHere (l : Lexer) (t : Token) : Option Lexer :=
  if l.inFlow then some l
  else if l.keyAllowed then some (l.openBlock l.cursor.column l.count t)
  else none

def entry (l : Lexer) : Option Lexer := do
  let l ← l.openBlockHere .blockSequence
  let l ← l.dropPending
  return { l with keyAllowed := true }.pushAt (.entry, l.cursor.skip 1)

def key (l : Lexer) : Option Lexer := do
  let l ← l.openBlockHere .blockMapping
  let l ← l.dropPending
  return { l with keyAllowed := !l.inFlow }.pushAt (.key, l.cursor.skip 1)

/-- A colon makes the pending word a key; without one its key is empty or was marked. -/
def value (l : Lexer) : Option Lexer := do
  let l ← match l.pending with
    | some p =>
      let l := (l.insert p.number .key).openBlock p.column p.number .blockMapping
      some { l with pending := none, keyAllowed := false }
    | none => do
      let l ← l.openBlockHere .blockMapping
      some { l with keyAllowed := !l.inFlow }
  return l.pushAt (.value, l.cursor.skip 1)

def named (l : Lexer) (token : String → Token) : Option Lexer := do
  let l ← l.savePending
  let (name, next) ← takeName? (l.cursor.skip 1)
  return { l with keyAllowed := false }.pushAt (token name, next)

def tag (l : Lexer) : Option Lexer := do
  let l ← l.savePending
  return { l with keyAllowed := false }.pushAt (← takeTag? l.inFlow l.cursor)

def block (l : Lexer) (style : Style) : Option Lexer := do
  let l ← l.dropPending
  let outer := if l.indent < 0 then none else some l.indent.toNat
  let (text, next) ← takeBlock? (style == .literal) outer (l.cursor.skip 1)
  return { l with keyAllowed := true }.pushAt (.scalar style (String.ofList text), next)

def quoted (l : Lexer) (quote : Char) : Option Lexer := do
  let l ← l.savePending
  let (text, next) ← takeQuoted? quote [] .empty (l.cursor.skip 1)
  return { l with keyAllowed := false }.pushAt (.scalar .other (String.ofList text), next)

def plain (l : Lexer) : Option Lexer := do
  let l ← l.savePending
  let (text, broken, next) ← takePlain? l.inFlow (l.indent + 1).toNat [] .empty l.cursor
  return { l with keyAllowed := broken }.pushAt (.scalar .plain (String.ofList text), next)

def startsPlain (flow : Bool) (x : Char) (rest : List Char) : Bool :=
  if x == '-' then !rest.head?.any isBlank
  else if x == '?' || x == ':' then !flow && !atWordEnd rest
  else !(isSeparator x || isFlowMark x || ['#', '&', '*', '!', '|', '>', '\'', '"', '%', '@',
    '\x60'].contains x)

def word (l : Lexer) : Option Lexer :=
  match l.cursor.rest with
  | [] => l.endStream
  | x :: rest =>
    let flow := l.inFlow
    let marked := flow || atWordEnd rest
    if l.cursor.column == 0 && x == '%' then l.directive
    else if l.cursor.column == 0 && atRule '-' (x :: rest) then l.documentMark .documentStart
    else if l.cursor.column == 0 && atRule '.' (x :: rest) then l.documentMark .documentEnd
    else if x == '[' then l.openFlow .openSequence
    else if x == '\x7b' then l.openFlow .openMapping
    else if x == ']' then l.closeFlow .closeSequence
    else if x == '\x7d' then l.closeFlow .closeMapping
    else if x == ',' then l.comma
    else if x == '-' && atWordEnd rest then l.entry
    else if x == '?' && marked then l.key
    else if x == ':' && marked then l.value
    else if x == '*' then l.named .alias
    else if x == '&' then l.named .anchor
    else if x == '!' then l.tag
    else if x == '|' && !flow then l.block .literal
    else if x == '>' && !flow then l.block .other
    else if x == '\'' || x == '"' then l.quoted x
    else if startsPlain flow x rest then l.plain
    else none

/-- How many words can be given away: those before the first one that is pending. -/
def settled (l : Lexer) : Nat :=
  (l.pending :: l.around).foldl (fun n p => p.elim n (min n ·.number)) l.count

/-- Finds the next word. The end of a text that was cut off is not the end of its words. -/
def next (l : Lexer) : Option Lexer := do
  let (keyAllowed, cursor) := skipToWord l.inFlow l.keyAllowed l.cursor
  let l ← { l with keyAllowed, cursor }.dropStale
  let l ← (l.closeBlocks cursor.column).word
  guard (l.whole || !l.cursor.rest.isEmpty)
  let l ← l.dropStale
  return { l with given := l.settled }

def givenWords (l : Lexer) : List Token :=
  (l.found.drop (l.count - l.given)).reverse

def run : Nat → Lexer → List Token
  | 0, l => l.givenWords
  | n + 1, l =>
    match l.next with
    | none => l.givenWords
    | some l => if l.found.head? == some .streamEnd then l.found.reverse else run n l

end Lexer

/-- The words of a text. They end with the end of the stream if all of it could be read. Every
word takes a character at least, but for the end. -/
def tokens (s : List Char) : List Token :=
  let source := Source.of s
  Lexer.run (source.text.length + 1) (.start source)

end ReportRouting.Yaml
