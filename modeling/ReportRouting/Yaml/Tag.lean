import ReportRouting.Text.Bytes
import ReportRouting.Text.Digits
import ReportRouting.Yaml.Block
import ReportRouting.Yaml.Token

/-!
Anchors, tags and directives.
-/

namespace ReportRouting.Yaml

/-! ### Anchors -/

def atNameEnd (s : List Char) : Bool :=
  atWordEnd s || s.head?.any fun c =>
    c == '?' || c == ':' || c == ',' || c == ']' || c == '\x7d' || c == '%' || c == '@'
      || c == '\x60'

def takeName? (c : Cursor) : Option (String × Cursor) :=
  let name := c.rest.takeWhile isNameChar
  let next := c.skip name.length
  if name.isEmpty || !atNameEnd next.rest then none else some (String.ofList name, next)

/-! ### Tags -/

/-- The characters of a URI; some of them only where the URI stands for itself. -/
def isUriChar (wide : Bool) (c : Char) : Bool :=
  isNameChar c || [';', '/', '?', ':', '@', '&', '=', '+', '$', '.', '!', '~', '*', '\'', '(',
    ')'].contains c || (wide && [',', '[', ']'].contains c)

def percentBytes? : Nat → List Char → Option (List UInt8)
  | 0, _ => some []
  | n + 1, '%' :: a :: b :: rest => do
    let a ← Text.hexValue? a
    let b ← Text.hexValue? b
    return UInt8.ofNat (16 * a + b) :: (← percentBytes? n rest)
  | _, _ => none

def byteCount? (b : UInt8) : Option Nat :=
  if b < 0x80 then some 1
  else if b < 0xC0 then none
  else if b < 0xE0 then some 2
  else if b < 0xF0 then some 3
  else if b < 0xF8 then some 4
  else none

/-- The text of a character whose bytes are written with percent signs, and how many they are. -/
def takePercent? (s : List Char) : Option (String × Nat) := do
  let first ← (← percentBytes? 1 s).head?
  let count ← byteCount? first
  let bytes ← percentBytes? count s
  if bytes.tail.all fun b => 0x80 ≤ b && b < 0xC0 then
    return ((Text.text? bytes).getD "\ufffd", count)
  else none

def takeUri? (wide : Bool) (uri : List Char) (c : Cursor) : Option (List Char × Cursor) :=
  match _h : c.rest with
  | [] => some (uri.reverse, c)
  | x :: _ =>
    if x == '%' then
      match takePercent? c.rest with
      | none => none
      | some (s, count) => takeUri? wide (s.toList.reverse ++ uri) (c.skip (3 * (count - 1) + 3))
    else if isUriChar wide x then takeUri? wide (x :: uri) (c.skip 1)
    else some (uri.reverse, c)
termination_by c.rest.length
decreasing_by
  · simp only [Cursor.length_skip, _h, List.length_cons]
    omega
  · simp only [Cursor.length_skip, _h, List.length_cons]
    omega

def takeFullUri? (wide : Bool) (c : Cursor) : Option (List Char × Cursor) := do
  let (uri, next) ← takeUri? wide [] c
  if uri.isEmpty then none else return (uri, next)

/-- Takes the handle that a tag begins with, up to its second exclamation mark if it has one. -/
def takeHandle (c : Cursor) : List Char × Cursor :=
  let name := (c.rest.drop 1).takeWhile isNameChar
  let next := c.skip (name.length + 1)
  if next.rest.head? == some '!' then ('!' :: name ++ ['!'], next.skip 1)
  else ('!' :: name, next)

/-- Whether a handle is more than a mark and ends with a mark of its own. -/
def isNamedHandle (handle : List Char) : Bool :=
  1 < handle.length && handle.getLast? == some '!'

def takeTagParts? (c : Cursor) : Option (List Char × List Char × Cursor) := do
  if (c.rest.drop 1).head? == some '<' then
    let (uri, next) ← takeFullUri? true (c.skip 2)
    if next.rest.head? == some '>' then return ([], uri, next.skip 1) else none
  else
    let (handle, next) := takeHandle c
    if isNamedHandle handle then
      let (suffix, next) ← takeFullUri? false next
      return (handle, suffix, next)
    else
      let (suffix, next) ← takeUri? false (handle.drop 1).reverse next
      if suffix.isEmpty then return ([], ['!'], next) else return (['!'], suffix, next)

def takeTag? (flow : Bool) (c : Cursor) : Option (Token × Cursor) := do
  let (handle, suffix, next) ← takeTagParts? c
  if (flow && next.rest.head? == some ',') || atWordEnd next.rest then
    return (.tag (String.ofList handle) (String.ofList suffix), next)
  else none

/-! ### Directives -/

def takeVersion? (c : Cursor) : Option (Token × Cursor) := do
  let c := c.skipWhile isBlank
  let (major, rest) ← Text.takeNumber? 9 c.rest
  let c := c.skip (c.rest.length - rest.length)
  if c.rest.head? == some '.' then
    let c := c.skip 1
    let (minor, rest) ← Text.takeNumber? 9 c.rest
    return (.version major minor, c.skip (c.rest.length - rest.length))
  else none

def takeHandleMeaning? (c : Cursor) : Option (Token × Cursor) := do
  let c := c.skipWhile isBlank
  guard (c.rest.head? == some '!')
  let (handle, c) := takeHandle c
  guard (handle == ['!'] || isNamedHandle handle)
  guard (c.rest.head?.any isBlank)
  let (uri, c) ← takeFullUri? true (c.skipWhile isBlank)
  guard (atWordEnd c.rest)
  return (.handle (String.ofList handle) (String.ofList uri), c)

def takeDirective? (c : Cursor) : Option (Token × Cursor) := do
  let c := c.skip 1
  let name := c.rest.takeWhile isNameChar
  let c := c.skip name.length
  guard (atWordEnd c.rest)
  let (token, c) ←
    if name == ['Y', 'A', 'M', 'L'] then takeVersion? c
    else if name == ['T', 'A', 'G'] then takeHandleMeaning? c
    else none
  return (token, ← endLine? c)

end ReportRouting.Yaml
