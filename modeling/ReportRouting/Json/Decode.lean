import ReportRouting.Document.Shape
import ReportRouting.Json.Number

/-!
Values in JSON documents.

A document is decoded as it is read, from a text, or after it has been read, as a value. As a text
it can turn out unreadable behind a mismatch, which then counts, as it comes first. As a value it
has its members in the order of their names, of equal names only the last, and its numbers of
items and members are known from the start.
-/

namespace ReportRouting.Json

inductive Stage where
  | text
  | value
  deriving DecidableEq, Repr

abbrev Decoded (α : Type) : Type :=
  Except DocumentFault α

def mismatch {α : Type} (m : Mismatch) : Decoded α :=
  .error (.mismatch [] m)

def unreadable {α : Type} : Decoded α :=
  .error .unreadable

def found? : Json → Option Found
  | .null => some .null
  | .bool b => some (.bool b)
  | .number n => (numberValue n).found?
  | .text s => some (.text s)
  | .array _ _ => some .sequence
  | .object _ _ => some .map
  | .keyed _ => some .map
  | .mangled => none
  | .broken => none

/-- Answers that a value is not what was expected. -/
def refuse {α : Type} (expected : String) (v : Json) : Decoded α :=
  match v.found? with
  | some found => mismatch (.invalidType found expected)
  | none => unreadable

/-! ### Single values -/

def decodeText : Json → Decoded String
  | .text s => .ok s
  | v => refuse "a string" v

def decodeParsed {α : Type} (expected : String) (read : List Char → Option α) (v : Json) :
    Decoded α :=
  match v with
  | .text s =>
    match read s.toList with
    | some a => .ok a
    | none => unreadable
  | v => refuse expected v

def decodeCount (v : Json) : Decoded UInt64 :=
  match v with
  | .number n =>
    match numberValue n with
    | .unsigned n => .ok (UInt64.ofNat n)
    | .negative n => mismatch (.invalidValue (.integer n) "u64")
    | _ => refuse "u64" v
  | v => refuse "u64" v

def decodeOptional {α : Type} (decode : Json → Decoded α) : Json → Decoded (Option α)
  | .null => .ok none
  | v => return some (← decode v)

def decodeSequence {α : Type} (decode : Json → Decoded α) : Json → Decoded (List α)
  | .array items closed => do
    let values ← items.mapM decode
    if closed then return values else unreadable
  | v => refuse "a sequence" v

/-! ### Named values

A named value stands for itself as a text, or as the name of a single member that is null. -/

def named {α : Type} (values : List (String × α)) (name : String) : Decoded α :=
  match values.lookup name with
  | some a => .ok a
  | none => mismatch (.unknownVariant name (values.map (·.1)))

def decodeNull : Json → Decoded Unit
  | .null => .ok ()
  | v => refuse "unit" v

def decodeChoice {α : Type} (stage : Stage) (values : List (String × α)) (v : Json) :
    Decoded α :=
  match stage, v with
  | _, .text name => named values name
  | .value, .object [(some name, inner)] _ => do
    let a ← named values name
    decodeNull inner
    return a
  | .value, .object _ _ =>
    mismatch (.invalidValue .map "map with a single key")
  | .value, v => refuse "string or map" v
  | .text, .object ((some name, inner) :: rest) closed => do
    let a ← named values name
    decodeNull inner
    if rest.isEmpty && closed then return a else unreadable
  | .text, .keyed name => refuse "variant identifier" name
  | .text, _ => unreadable

/-! ### Records

A record is an object of its fields, or an array of them in order. -/

def decodeMembers {δ : Type} (fields : List (Field Decoded Json δ)) :
    List (Option String × Json) → δ → Decoded δ
  | [], draft => .ok draft
  | (none, _) :: _, _ => unreadable
  | (some name, v) :: rest, draft =>
    match fields.find? (·.name == name) with
    | none => decodeMembers fields rest draft
    | some field =>
      if field.isSet draft then mismatch (.duplicateField name)
      else field.read v draft >>= decodeMembers fields rest

def decodeItems {δ : Type} : List (Field Decoded Json δ) → List Json → δ → Decoded δ
  | field :: fields, v :: rest, draft => field.read v draft >>= decodeItems fields rest
  | _, _, draft => .ok draft

def finishRecord {δ α : Type} (shape : Shape Decoded Json δ α) (draft : δ) : Decoded α :=
  match shape.finish draft with
  | .ok a => .ok a
  | .error m => mismatch m

def decodeRecord {δ α : Type} (stage : Stage) (shape : Shape Decoded Json δ α) (v : Json) :
    Decoded α :=
  match v with
  | .object members closed => do
    let draft ← decodeMembers shape.fields members shape.empty
    if closed then finishRecord shape draft else unreadable
  | .array items closed => do
    let draft ← decodeItems shape.fields items shape.empty
    if shape.fields.length < items.length then
      match stage with
      | .value => mismatch (.invalidLength items.length "fewer elements in array")
      | .text => unreadable
    else if !closed then unreadable
    else if items.length < shape.required then
      mismatch (.invalidLength items.length
        ("struct " ++ shape.name ++ " with " ++ toString shape.fields.length ++ " elements"))
    else finishRecord shape draft
  | v => refuse ("struct " ++ shape.name) v

/-- How the values of JSON documents are read. -/
def format (stage : Stage) : Format Decoded Json where
  text := decodeText
  parsed := decodeParsed
  choice := decodeChoice stage
  count := decodeCount
  optional := decodeOptional
  sequence := decodeSequence
  record := decodeRecord stage

/-! ### Documents -/

/-- Adds a member in the order of names, in place of one that has the name. -/
def insertMember (m : Option String × Json) :
    List (Option String × Json) → List (Option String × Json)
  | [] => [m]
  | n :: rest =>
    if m.1 = n.1 then m :: rest
    else if m.1.getD "" < n.1.getD "" then m :: n :: rest
    else n :: insertMember m rest

mutual

/-- A document as a value. -/
def settle : Json → Json
  | .array items closed => .array (settleItems items) closed
  | .object members closed =>
    .object ((settleMembers members).foldl (fun done m => insertMember m done) []) closed
  | v => v

def settleItems : List Json → List Json
  | [] => []
  | v :: rest => settle v :: settleItems rest

def settleMember : Option String × Json → Option String × Json
  | (name, v) => (name, settle v)

def settleMembers : List (Option String × Json) → List (Option String × Json)
  | [] => []
  | m :: rest => settleMember m :: settleMembers rest

end

/-- Decodes the one document of a text. -/
def ofText {α : Type} (decode : Json → Decoded α) (document : Json × Bool) : Decoded α := do
  let a ← decode document.1
  if document.2 then return a else unreadable

end ReportRouting.Json
