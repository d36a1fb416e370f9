import ReportRouting.Document.Shape
import ReportRouting.Yaml.Node
import ReportRouting.Yaml.Scalar

/-!
Values in YAML documents.

A value is decoded at a place: a node, and the steps that lead to it. Where an alias stands the
node it stands for is decoded instead, with the steps that lead to the alias; a document of a given
size has a limit on how often that may happen. A mismatch that has no place yet is at the place of
the collection around it.
-/

namespace ReportRouting.Yaml

structure Spot where
  path : List Step
  node : Node

/-- How many more aliases may be followed is the state. -/
abbrev Decoded (α : Type) : Type :=
  StateT Nat (Except DocumentFault) α

def unreadable {α : Type} : Decoded α :=
  throw .unreadable

def mismatch {α : Type} (m : Mismatch) : Decoded α :=
  throw (.mismatch [] m)

def mismatchAt {α : Type} (path : List Step) (m : Mismatch) : Decoded α :=
  throw (.mismatch path m)

def placed (path : List Step) : DocumentFault → DocumentFault
  | .mismatch [] m => .mismatch path m
  | fault => fault

def within {α : Type} (path : List Step) (x : Decoded α) : Decoded α :=
  fun limit => (x limit).mapError (placed path)

def follow (numbered : List (Nat × Node)) (v : Node) : Decoded Node :=
  match v with
  | .alias number => do
    let limit ← get
    if limit = 0 then unreadable
    else
      set (limit - 1)
      return (numbered.lookup number).getD .broken
  | v => return v

/-! ### Single values -/

def coreTag (kind : String) : String :=
  "tag:yaml.org,2002:" ++ kind

/-- What a scalar is, or why it is not what its tag says. -/
def scalarValue (tag : Option String) (style : Style) (text : String) : Except Mismatch Found :=
  let orElse (found : Option Found) (expected : String) : Except Mismatch Found :=
    match found with
    | some found => .ok found
    | none => .error (.invalidValue (.text text) expected)
  match tag with
  | none => .ok (if style = .plain then plainValue text else .text text)
  | some tag =>
    if tag = coreTag "bool" then orElse ((bool? text).map .bool) "a boolean"
    else if tag = coreTag "int" then orElse (integer? text) "an integer"
    else if tag = coreTag "float" then orElse ((float? text).map .float) "a float"
    else if tag = coreTag "null" then orElse (if isNull text then some .unit else none) "null"
    else if tag.startsWith "!" && style == .plain then .ok (plainValue text)
    else .ok (.text text)

def refuse {α : Type} (expected : String) (v : Node) : Decoded α :=
  match v with
  | .scalar p style text =>
    match scalarValue p.tag style text with
    | .ok found => mismatch (.invalidType found expected)
    | .error m => mismatch m
  | .sequence _ _ _ => mismatch (.invalidType .sequence expected)
  | .mapping _ _ _ => mismatch (.invalidType .map expected)
  | .alias _ | .void | .broken => unreadable

/-- Whether a scalar may have a value of some kind: it is plain, or literal and tagged so. -/
def mayBe (kind : String) (p : Properties) (style : Style) : Bool :=
  style == .plain || (style == .literal && p.tag == some (coreTag kind))

def isEmptyPlain (style : Style) (text : String) : Bool :=
  style == .plain && text.isEmpty

section

variable (numbered : List (Nat × Node))

/-- Reads the node of a place with a reader that gives mismatches no place. -/
def reading {α : Type} (read : Node → Decoded α) (spot : Spot) : Decoded α := do
  let v ← follow numbered spot.node
  within spot.path (read v)

def decodeText (expected : String) : Spot → Decoded String :=
  reading numbered fun
    | .scalar _ _ text => return text
    | v => refuse expected v

def decodeParsed {α : Type} (expected : String) (read : List Char → Option α) (spot : Spot) :
    Decoded α := do
  let text ← decodeText numbered expected spot
  match read text.toList with
  | some a => return a
  | none => unreadable

def decodeBool : Spot → Decoded Bool :=
  reading numbered fun v =>
    match v with
    | .scalar p style text =>
      match mayBe "bool" p style, bool? text with
      | true, some b => return b
      | _, _ => refuse "a boolean" v
    | v => refuse "a boolean" v

def decodeCount (expected : String) : Spot → Decoded UInt64 :=
  reading numbered fun v =>
    match v with
    | .scalar p style text =>
      match mayBe "int" p style, count? text with
      | true, some n => return n
      | _, _ => refuse expected v
    | v => refuse expected v

def decodeShort (spot : Spot) : Decoded UInt16 := do
  let n ← decodeCount numbered "u16" spot
  if n < 65536 then return n.toUInt16
  else mismatchAt spot.path (.invalidValue (.integer n.toNat) "u16")

/-- Whether a node is there: a plain scalar that is empty or null is not. -/
def isPresent : Node → Decoded Bool
  | .scalar p .plain text =>
    match p.tag with
    | none => return !text.isEmpty && !isNull text
    | some tag =>
      if tag = coreTag "null" then
        if isNull text then return false else mismatch (.invalidValue (.text text) "null")
      else return !text.isEmpty
  | .void => return false
  | .broken => unreadable
  | _ => return true

def decodeOptional {α : Type} (decode : Spot → Decoded α) (spot : Spot) :
    Decoded (Option α) := do
  let node ← follow numbered spot.node
  if ← isPresent node then return some (← decode { spot with node }) else return none

/-! ### Named values

A named value stands for itself as a scalar, or as the tag of a node that is empty or null. -/

def named {α : Type} (values : List (String × α)) (name : String) : Decoded α :=
  match values.lookup name with
  | some a => return a
  | none => mismatch (.unknownVariant name (values.map (·.1)))

def tagName? (p : Properties) : Option String :=
  match p.tag.map String.toList with
  | some ['!'] => some "!"
  | some ('!' :: name) => some (String.ofList name)
  | _ => none

def decodeNull : Node → Decoded Unit
  | .scalar _ style text =>
    if style != .other && (text.isEmpty || isNull text) then return ()
    else mismatch (.invalidValue (.text text) "null")
  | v => refuse "unit" v

def decodeTagged {α : Type} (values : List (String × α)) (name : String) (spot : Spot) :
    Decoded α := do
  let a ← named values name
  within spot.path (decodeNull spot.node)
  return a

def decodeChoice {α : Type} (values : List (String × α)) (spot : Spot) : Decoded α := do
  let node ← follow numbered spot.node
  let untagged (found : Found) : Decoded α :=
    mismatchAt spot.path (.invalidType found "a YAML tag starting with '!'")
  match node with
  | .scalar p _ text =>
    match tagName? p with
    | some name => decodeTagged values name { spot with node }
    | none => within spot.path (named values text)
  | .sequence p _ _ =>
    match tagName? p with
    | some name => decodeTagged values name { spot with node }
    | none => untagged .sequence
  | .mapping p _ _ =>
    match tagName? p with
    | some name => decodeTagged values name { spot with node }
    | none => untagged .map
  | _ => unreadable

/-! ### Collections

A plain scalar without text is a collection without anything in it. -/

def decodeItems {α : Type} (decode : Spot → Decoded α) (path : List Step) (items : List Node)
    (closed : Bool) : Decoded (List α) := do
  let values ← items.zipIdx.mapM fun item => decode ⟨path ++ [.index item.2], item.1⟩
  if closed then return values else unreadable

def decodeSequence {α : Type} (decode : Spot → Decoded α) (spot : Spot) : Decoded (List α) :=
  reading numbered (fun
    | .sequence _ items closed => decodeItems decode spot.path items closed
    | .scalar p style text =>
      if isEmptyPlain style text then return [] else refuse "a sequence" (.scalar p style text)
    | .void => return []
    | v => refuse "a sequence" v) spot

def fieldName (key : Node) : Decoded String := do
  match ← follow numbered key with
  | .scalar _ _ text => return text
  | v => refuse "field identifier" v

/-- The step to the value of a key: an alias does not name it. -/
def stepOf : Node → Step
  | .scalar _ _ text => .key text
  | _ => .unnamed

def isWhole : Node → Bool
  | .sequence _ _ closed | .mapping _ _ closed => closed
  | .broken => false
  | _ => true

def decodeMembers {δ : Type} (fields : List (Field Decoded Spot δ)) (path : List Step) :
    List (Node × Node) → δ → Decoded δ
  | [], draft => return draft
  | (key, v) :: rest, draft => do
    let name ← fieldName numbered key
    match fields.find? (·.name == name) with
    | none => if isWhole v then decodeMembers fields path rest draft else unreadable
    | some field =>
      if field.isSet draft then mismatch (.duplicateField name)
      else
        let draft ← field.read ⟨path ++ [stepOf key], v⟩ draft
        decodeMembers fields path rest draft

def finishRecord {δ α : Type} (shape : Shape Decoded Spot δ α) (draft : δ) : Decoded α :=
  match shape.finish draft with
  | .ok a => return a
  | .error m => mismatch m

def decodeRecord {δ α : Type} (shape : Shape Decoded Spot δ α) (spot : Spot) : Decoded α :=
  let expected := "struct " ++ shape.name
  reading numbered (fun
    | .mapping _ members closed => do
      let draft ← decodeMembers numbered shape.fields spot.path members shape.empty
      if closed then finishRecord shape draft else unreadable
    | .scalar p style text =>
      if isEmptyPlain style text then finishRecord shape shape.empty
      else refuse expected (.scalar p style text)
    | .void => finishRecord shape shape.empty
    | v => refuse expected v) spot

def format : Format Decoded Spot where
  text := decodeText numbered "a string"
  parsed := decodeParsed numbered
  choice := decodeChoice numbered
  count := decodeCount numbered "u64"
  optional := decodeOptional numbered
  sequence := decodeSequence numbered
  record := decodeRecord numbered

end

/-! ### Documents -/

/-- How often aliases may be followed for every event of a document. -/
def followsPerEvent : Nat :=
  100

def ofText {α : Type} (decode : List (Nat × Node) → Spot → Decoded α) (s : String) :
    Except DocumentFault α := do
  let document := read s
  let numbered := document.root.numbered []
  let (a, _) ← decode numbered ⟨[], document.root⟩ (document.size * followsPerEvent)
  if document.whole then return a else .error .unreadable

end ReportRouting.Yaml
