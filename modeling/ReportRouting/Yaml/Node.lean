import ReportRouting.Yaml.Event

/-!
YAML documents, whole or cut short.

A text that stops being YAML at some point still holds the nodes before that point. So the tree of
a text keeps what was read, and says of every collection whether its end was reached. An alias
stands for the last node with its number; nodes are numbered where their anchors are, by how many
names of anchors are known by then.
-/

namespace ReportRouting.Yaml

/-- The number of a node with an anchor, and its tag with the handle replaced. -/
structure Properties where
  number : Option Nat
  tag : Option String
  deriving DecidableEq, Repr

inductive Node where
  | scalar (properties : Properties) (style : Style) (text : String)
  | alias (number : Nat)
  | sequence (properties : Properties) (items : List Node) (closed : Bool)
  | mapping (properties : Properties) (members : List (Node × Node)) (closed : Bool)
  /-- The node of a stream without a document. -/
  | void
  | broken
  deriving Repr

structure Document where
  root : Node
  /-- The number of events that make up the document. -/
  size : Nat
  /-- Whether the text can be read to its end and nothing follows the document. -/
  whole : Bool
  deriving Repr

namespace Node

mutual

/-- Adds the nodes with numbers in a node, itself included, to those before it, which come latest
first. -/
def numbered (v : Node) (before : List (Nat × Node)) : List (Nat × Node) :=
  match v with
  | scalar p style text => p.number.toList.map (fun n => (n, scalar p style text)) ++ before
  | sequence p items closed =>
    numberedItems items (p.number.toList.map (fun n => (n, sequence p items closed)) ++ before)
  | mapping p members closed =>
    numberedMembers members (p.number.toList.map (fun n => (n, mapping p members closed)) ++ before)
  | .alias _ | void | broken => before

def numberedItems (items : List Node) (before : List (Nat × Node)) : List (Nat × Node) :=
  match items with
  | [] => before
  | v :: rest => numberedItems rest (numbered v before)

def numberedMember (m : Node × Node) (before : List (Nat × Node)) : List (Nat × Node) :=
  match m with
  | (key, v) => numbered v (numbered key before)

def numberedMembers (members : List (Node × Node)) (before : List (Nat × Node)) :
    List (Nat × Node) :=
  match members with
  | [] => before
  | m :: rest => numberedMembers rest (numberedMember m before)

end

end Node

/-! ### Building the tree -/

/-- A collection that has been entered, with what is in it so far, latest first. -/
inductive Frame where
  | sequence (properties : Properties) (items : List Node)
  | mapping (properties : Properties) (members : List (Node × Node)) (key : Option Node)

def Frame.add (f : Frame) (v : Node) : Frame :=
  match f with
  | .sequence p items => .sequence p (v :: items)
  | .mapping p members none => .mapping p members (some v)
  | .mapping p members (some key) => .mapping p ((key, v) :: members) none

def Frame.close (f : Frame) (closed : Bool) : Node :=
  match f with
  | .sequence p items => .sequence p items.reverse closed
  | .mapping p members none => .mapping p members.reverse closed
  | .mapping p members (some key) => .mapping p ((key, .broken) :: members).reverse closed

structure Builder where
  handles : List (String × String)
  /-- The anchors known by now and their latest numbers. -/
  anchors : List (String × Nat)
  frames : List Frame
  root : Option Node
  size : Nat

namespace Builder

def empty : Builder :=
  ⟨[], [], [], none, 0⟩

/-- What handles mean where no directive says anything else. -/
def commonHandles : List (String × String) :=
  [("!", "!"), ("!!", "tag:yaml.org,2002:")]

def add (b : Builder) (v : Node) : Builder :=
  match b.frames with
  | [] => { b with root := some v }
  | f :: frames => { b with frames := f.add v :: frames }

/-- Replaces the handle of a tag; an unknown handle is a fault. -/
def tag? (b : Builder) (tag : String × String) : Option String :=
  if tag.1.isEmpty then some tag.2
  else (b.handles.lookup tag.1).map (· ++ tag.2)

def setNumber (name : String) (number : Nat) : List (String × Nat) → List (String × Nat)
  | [] => [(name, number)]
  | a :: rest => if a.1 = name then (name, number) :: rest else a :: setNumber name number rest

def properties? (b : Builder) (marks : Marks) : Option (Properties × Builder) := do
  let tag ← match marks.tag with
    | none => some none
    | some tag => some (some (← b.tag? tag))
  match marks.anchor with
  | none => return (⟨none, tag⟩, b)
  | some name =>
    let number := b.anchors.length
    return (⟨some number, tag⟩, { b with anchors := setNumber name number b.anchors })

def close (b : Builder) : Builder :=
  match b.frames with
  | [] => b
  | f :: frames => { b with frames }.add (f.close true)

/-- Adds an event of the document. The tag that is only a mark says nothing about a scalar. -/
def event? (b : Builder) : Event → Option Builder
  | .documentStart handles => some { b with handles := handles ++ commonHandles }
  | .alias name => do
    let number ← b.anchors.lookup name
    return { b with size := b.size + 1 }.add (.alias number)
  | .scalar marks style text => do
    let (p, b) ← b.properties? marks
    let p := { p with tag := p.tag.filter (· != "!") }
    return { b with size := b.size + 1 }.add (.scalar p style text)
  | .sequenceStart marks => do
    let (p, b) ← b.properties? marks
    return { b with size := b.size + 1, frames := .sequence p [] :: b.frames }
  | .mappingStart marks => do
    let (p, b) ← b.properties? marks
    return { b with size := b.size + 1, frames := .mapping p [] none :: b.frames }
  | .sequenceEnd | .mappingEnd => some { b with size := b.size + 1 }.close
  | .documentEnd | .streamEnd => none

def abandon (b : Builder) : Node :=
  match b.frames with
  | [] => b.root.getD .broken
  | f :: frames => frames.foldl (fun v f => (f.add v).close false) (f.close false)

end Builder

def buildFrom (b : Builder) : List Event → Document
  | [.streamEnd] => ⟨.void, 1, true⟩
  | .documentEnd :: rest => ⟨b.abandon, b.size, rest == [.streamEnd]⟩
  | e :: rest =>
    match b.event? e with
    | some b => buildFrom b rest
    | none => ⟨b.abandon, b.size, false⟩
  | [] => ⟨b.abandon, b.size, false⟩

def read (s : String) : Document :=
  buildFrom .empty (events (tokens s.toList))

end ReportRouting.Yaml
