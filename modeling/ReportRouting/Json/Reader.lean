import ReportRouting.Json.Token

/-!
Reading JSON.

The reader walks over the words of a text with the containers around it on a stack, so the depth
of a document is no concern. Where the text stops being JSON, the containers on the stack are
closed as they are.
-/

namespace ReportRouting.Json

/-- A container that has been entered, with what stands before the current place, latest first. -/
inductive Frame where
  | array (items : List Json)
  | object (members : List (Option String × Json)) (name : Option String)

inductive Place where
  | value
  | firstItem
  | afterValue (v : Json)
  | firstName
  | name (members : List (Option String × Json))
  | colon (members : List (Option String × Json)) (name : Option String)

/-- The document around a value at which reading stops. -/
def abandon : List Frame → Json → Json
  | [], v => v
  | .array items :: frames, v => abandon frames (.array (v :: items).reverse false)
  | .object members name :: frames, v => abandon frames (.object ((name, v) :: members).reverse false)

/-- What stands at a place where no word could be read. -/
def Place.remnant : Place → Json
  | .value | .firstItem => .broken
  | .afterValue v => v
  | .firstName => .object [] false
  | .name members => .object members.reverse false
  | .colon members key => .object ((key, .broken) :: members).reverse false

inductive Move where
  | next (frames : List Frame) (place : Place)
  | stop (frames : List Frame) (v : Json)

def Token.scalar? : Token → Option Json
  | .null => some .null
  | .bool b => some (.bool b)
  | .number n => some (.number n)
  | .text (some s) => some (.text s)
  | .text none => some .mangled
  | _ => none

def moveAtValue (frames : List Frame) (t : Token) : Move :=
  match t with
  | .openArray => .next (.array [] :: frames) .firstItem
  | .openObject => .next frames .firstName
  | t =>
    match t.scalar? with
    | some v => .next frames (.afterValue v)
    | none => .stop frames .broken

def moveAfterValue (frames : List Frame) (v : Json) (t : Token) : Move :=
  match frames, t with
  | .array items :: frames, .comma => .next (.array (v :: items) :: frames) .value
  | .array items :: frames, .closeArray =>
    .next frames (.afterValue (.array (v :: items).reverse true))
  | .object members name :: frames, .comma => .next frames (.name ((name, v) :: members))
  | .object members name :: frames, .closeObject =>
    .next frames (.afterValue (.object ((name, v) :: members).reverse true))
  | frames, _ => .stop frames v

def moveAtName (frames : List Frame) (members : List (Option String × Json)) (t : Token) : Move :=
  match t with
  | .text name => .next frames (.colon members name)
  | _ => .stop frames (.object members.reverse false)

/-- What stands at the place of a first name though it is no text. -/
def strayName : Token → Json
  | .openArray => .keyed (.array [] false)
  | .openObject => .keyed (.object [] false)
  | t =>
    match t.scalar? with
    | some v => .keyed v
    | none => .object [] false

def move (frames : List Frame) (place : Place) (t : Token) : Move :=
  match place, t with
  | .value, t => moveAtValue frames t
  | .firstItem, .closeArray =>
    match frames with
    | .array [] :: frames => .next frames (.afterValue (.array [] true))
    | frames => .stop frames .broken
  | .firstItem, t => moveAtValue frames t
  | .afterValue v, t => moveAfterValue frames v t
  | .firstName, .closeObject => .next frames (.afterValue (.object [] true))
  | .firstName, .text name => .next frames (.colon [] name)
  | .firstName, t => .stop frames (strayName t)
  | .name members, t => moveAtName frames members t
  | .colon members name, .colon => .next (.object members name :: frames) .value
  | .colon members name, _ => .stop frames (.object ((name, .broken) :: members).reverse false)

/-- The document in a text, and whether nothing follows it. -/
def readFrom (frames : List Frame) (place : Place) (s : List Char) : Json × Bool :=
  match _h : takeWord? (s.dropWhile isSpace) with
  | none => (abandon frames place.remnant, (s.dropWhile isSpace).isEmpty)
  | some (t, rest) =>
    match move frames place t with
    | .next frames place => readFrom frames place rest
    | .stop frames v => (abandon frames v, false)
termination_by s.length
decreasing_by
  have := length_of_takeWord? _h
  have := (List.dropWhile_sublist isSpace (l := s)).length_le
  omega

def read (s : String) : Json × Bool :=
  readFrom [] .value s.toList

end ReportRouting.Json
