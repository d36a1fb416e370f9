import ReportRouting.Yaml.Lexer

/-!
The structure of a stream of documents.

Words are accepted one by one. What may come next is a stack of places, the innermost first: a
place takes a word, or passes it on to the places that come after it, or refuses it. Passing on
makes the stack lighter, so every word is taken or refused in the end.
-/

namespace ReportRouting.Yaml

/-- What is written in front of a node: the name of an anchor, and a tag as a handle and a
suffix. -/
structure Marks where
  anchor : Option String
  tag : Option (String × String)
  deriving DecidableEq, Repr

def Marks.none : Marks :=
  ⟨.none, .none⟩

def Marks.isEmpty (m : Marks) : Bool :=
  m.anchor.isNone && m.tag.isNone

inductive Event where
  /-- A document begins, with the handles that it gives a meaning. -/
  | documentStart (handles : List (String × String))
  | documentEnd
  | alias (name : String)
  | scalar (marks : Marks) (style : Style) (text : String)
  | sequenceStart (marks : Marks)
  | sequenceEnd
  | mappingStart (marks : Marks)
  | mappingEnd
  | streamEnd
  deriving DecidableEq, Repr

def Event.empty : Event :=
  .scalar .none .plain ""

/-! ### Places -/

inductive Place where
  | document (first : Bool)
  | directives (version : Bool) (handles : List (String × String))
  | content
  | documentEnd
  /-- A node, in a block or in a flow collection. A `loose` node may be a sequence that is not
  indented. -/
  | node (block loose : Bool) (marks : Marks)
  | entry
  | entryNode
  | looseEntry
  | looseEntryNode
  | blockKey
  | blockKeyNode
  | blockValue
  | blockValueNode
  | item (first : Bool)
  | itemNode
  | pairKey
  | pairValue
  | pairValueNode
  | pairEnd
  | member (first : Bool)
  | memberNode
  | memberKeyNode
  | memberValue
  | memberValueNode
  | memberEnd
  deriving DecidableEq, Repr

/-- What a place does with a word: the events it makes, and the places that replace it. -/
inductive Response where
  | take (events : List Event) (places : List Place)
  | pass (events : List Event) (places : List Place)
  | refuse

/-! ### Documents -/

def respondDocument (first : Bool) : Token → Response
  | .streamEnd => .take [.streamEnd] []
  | .version _ _ | .handle _ _ | .documentStart => .pass [] [.directives false []]
  | t =>
    if first then .pass [.documentStart []] [.node true false .none, .documentEnd]
    else if t = .documentEnd then .take [] [.document false]
    else .refuse

def respondDirectives (version : Bool) (handles : List (String × String)) : Token → Response
  | .version major minor =>
    if !version && major == 1 && (minor == 1 || minor == 2) then
      .take [] [.directives true handles]
    else .refuse
  | .handle handle uri =>
    if (handles.lookup handle).isSome then .refuse
    else .take [] [.directives version (handles ++ [(handle, uri)])]
  | .documentStart => .take [.documentStart handles] [.content, .documentEnd]
  | _ => .refuse

def respondContent : Token → Response
  | .version _ _ | .handle _ _ | .documentStart | .documentEnd | .streamEnd => .pass [.empty] []
  | _ => .pass [] [.node true false .none]

def respondDocumentEnd : Token → Response
  | .documentEnd => .take [.documentEnd] [.document false]
  | _ => .pass [.documentEnd] [.document false]

/-! ### Nodes -/

/-- Marks without a node are the marks of a scalar that is not written. -/
def respondMarksOnly (marks : Marks) : Response :=
  if marks.isEmpty then .refuse else .pass [.scalar marks .plain ""] []

def respondNode (block loose : Bool) (marks : Marks) : Token → Response
  | .alias name => if marks.isEmpty then .take [.alias name] [] else respondMarksOnly marks
  | .anchor name =>
    if marks.anchor.isNone then .take [] [.node block loose { marks with anchor := some name }]
    else respondMarksOnly marks
  | .tag handle suffix =>
    if marks.tag.isNone then .take [] [.node block loose { marks with tag := some (handle, suffix) }]
    else respondMarksOnly marks
  | .scalar style text => .take [.scalar marks style text] []
  | .openSequence => .take [.sequenceStart marks] [.item true]
  | .openMapping => .take [.mappingStart marks] [.member true]
  | .entry => if loose then .pass [.sequenceStart marks] [.looseEntry] else respondMarksOnly marks
  | .blockSequence =>
    if block then .take [.sequenceStart marks] [.entry] else respondMarksOnly marks
  | .blockMapping =>
    if block then .take [.mappingStart marks] [.blockKey] else respondMarksOnly marks
  | _ => respondMarksOnly marks

/-- A node, unless a word shows that it is not written; `next` is the place behind it. -/
def respondOptionalNode (block loose : Bool) (ends : List Token) (next : Place) (t : Token) :
    Response :=
  if ends.contains t then .pass [.empty] [next]
  else .pass [] [.node block loose .none, next]

/-! ### Blocks -/

def respondEntry : Token → Response
  | .entry => .take [] [.entryNode]
  | .blockEnd => .take [.sequenceEnd] []
  | _ => .refuse

def respondLooseEntry : Token → Response
  | .entry => .take [] [.looseEntryNode]
  | _ => .pass [.sequenceEnd] []

def respondBlockKey : Token → Response
  | .key => .take [] [.blockKeyNode]
  | .blockEnd => .take [.mappingEnd] []
  | _ => .refuse

def respondBlockValue : Token → Response
  | .value => .take [] [.blockValueNode]
  | _ => .pass [.empty] [.blockKey]

/-! ### Flow collections -/

def respondItem (first : Bool) : Token → Response
  | .closeSequence => .take [.sequenceEnd] []
  | .comma => if first then .pass [] [.itemNode] else .take [] [.itemNode]
  | _ => if first then .pass [] [.itemNode] else .refuse

def respondItemNode : Token → Response
  | .key => .take [.mappingStart .none] [.pairKey]
  | .closeSequence => .take [.sequenceEnd] []
  | _ => .pass [] [.node false false .none, .item false]

/-- A pair whose key is not written loses the word that shows it. -/
def respondPairKey : Token → Response
  | .value | .comma | .closeSequence => .take [.empty] [.pairValue]
  | _ => .pass [] [.node false false .none, .pairValue]

def respondPairValue : Token → Response
  | .value => .take [] [.pairValueNode]
  | _ => .pass [.empty] [.pairEnd]

def respondMember (first : Bool) : Token → Response
  | .closeMapping => .take [.mappingEnd] []
  | .comma => if first then .pass [] [.memberNode] else .take [] [.memberNode]
  | _ => if first then .pass [] [.memberNode] else .refuse

def respondMemberNode : Token → Response
  | .key => .take [] [.memberKeyNode]
  | .closeMapping => .take [.mappingEnd] []
  | _ => .pass [] [.node false false .none, .memberEnd]

def respondMemberValue : Token → Response
  | .value => .take [] [.memberValueNode]
  | _ => .pass [.empty] [.member false]

/-! ### Streams -/

def respond : Place → Token → Response
  | .document first => respondDocument first
  | .directives version handles => respondDirectives version handles
  | .content => respondContent
  | .documentEnd => respondDocumentEnd
  | .node block loose marks => respondNode block loose marks
  | .entry => respondEntry
  | .entryNode => respondOptionalNode true false [.entry, .blockEnd] .entry
  | .looseEntry => respondLooseEntry
  | .looseEntryNode =>
    respondOptionalNode true false [.entry, .key, .value, .blockEnd] .looseEntry
  | .blockKey => respondBlockKey
  | .blockKeyNode => respondOptionalNode true true [.key, .value, .blockEnd] .blockValue
  | .blockValue => respondBlockValue
  | .blockValueNode => respondOptionalNode true true [.key, .value, .blockEnd] .blockKey
  | .item first => respondItem first
  | .itemNode => respondItemNode
  | .pairKey => respondPairKey
  | .pairValue => respondPairValue
  | .pairValueNode => respondOptionalNode false false [.comma, .closeSequence] .pairEnd
  | .pairEnd => fun _ => .pass [.mappingEnd] [.item false]
  | .member first => respondMember first
  | .memberNode => respondMemberNode
  | .memberKeyNode =>
    respondOptionalNode false false [.value, .comma, .closeMapping] .memberValue
  | .memberValue => respondMemberValue
  | .memberValueNode => respondOptionalNode false false [.comma, .closeMapping] (.member false)
  | .memberEnd => fun _ => .pass [.empty] [.member false]

/-- How much a place weighs: more than the places that it passes a word on to. -/
def Place.weight : Place → Nat
  | .directives _ _ | .entry | .looseEntry | .blockKey | .item false | .member false => 1
  | .document false | .node _ _ _ | .blockValue | .pairEnd | .memberValue | .memberEnd => 2
  | .documentEnd | .content | .pairValue => 3
  | .itemNode | .entryNode | .looseEntryNode | .blockValueNode | .memberValueNode => 4
  | .blockKeyNode | .item true | .pairValueNode | .memberNode | .memberKeyNode => 5
  | .document true | .pairKey | .member true => 6

def weight (places : List Place) : Nat :=
  places.foldr (fun p sum => p.weight + sum) 0

theorem weight_append (a b : List Place) : weight (a ++ b) = weight a + weight b := by
  induction a with
  | nil => simp [weight]
  | cons p a ih => simp_all [weight, Nat.add_assoc]

theorem weight_of_respondMarksOnly {marks : Marks} {events : List Event} {places : List Place}
    (h : respondMarksOnly marks = .pass events places) : weight places = 0 := by
  grind [respondMarksOnly, weight]

theorem weight_of_respondNode {block loose : Bool} {marks : Marks} {t : Token}
    {events : List Event} {places : List Place}
    (h : respondNode block loose marks t = .pass events places) : weight places < 2 := by
  unfold respondNode at h
  split at h <;> grind [→ weight_of_respondMarksOnly, weight, Place.weight]

theorem weight_of_respondOptionalNode {block loose : Bool} {ends : List Token} {next : Place}
    {t : Token} {events : List Event} {places : List Place}
    (h : respondOptionalNode block loose ends next t = .pass events places) :
    weight places ≤ next.weight + 2 := by
  grind [respondOptionalNode, weight, Place.weight]

theorem weight_of_respond {p : Place} {t : Token} {events : List Event} {places : List Place}
    (h : respond p t = .pass events places) : weight places < p.weight := by
  cases p <;> simp only [respond] at h
  case document first =>
    unfold respondDocument at h
    split at h <;> cases first <;> grind [weight, Place.weight]
  case directives =>
    unfold respondDirectives at h
    split at h <;> grind [weight, Place.weight]
  case content =>
    unfold respondContent at h
    split at h <;> grind [weight, Place.weight]
  case documentEnd =>
    unfold respondDocumentEnd at h
    split at h <;> grind [weight, Place.weight]
  case node => exact weight_of_respondNode h
  case entry =>
    unfold respondEntry at h
    split at h <;> grind [weight, Place.weight]
  case looseEntry =>
    unfold respondLooseEntry at h
    split at h <;> grind [weight, Place.weight]
  case blockKey =>
    unfold respondBlockKey at h
    split at h <;> grind [weight, Place.weight]
  case blockValue =>
    unfold respondBlockValue at h
    split at h <;> grind [weight, Place.weight]
  case item =>
    unfold respondItem at h
    split at h <;> grind [weight, Place.weight]
  case itemNode =>
    unfold respondItemNode at h
    split at h <;> grind [weight, Place.weight]
  case pairKey =>
    unfold respondPairKey at h
    split at h <;> grind [weight, Place.weight]
  case pairValue =>
    unfold respondPairValue at h
    split at h <;> grind [weight, Place.weight]
  case pairEnd => grind [weight, Place.weight]
  case member =>
    unfold respondMember at h
    split at h <;> grind [weight, Place.weight]
  case memberNode =>
    unfold respondMemberNode at h
    split at h <;> grind [weight, Place.weight]
  case memberValue =>
    unfold respondMemberValue at h
    split at h <;> grind [weight, Place.weight]
  case memberEnd => grind [weight, Place.weight]
  all_goals grind [→ weight_of_respondOptionalNode, Place.weight]

/-- What the places make of a word, added to the events before, which come latest first, and the
places for the next word unless this one is refused. -/
def accept (t : Token) (events : List Event) (places : List Place) :
    List Event × Option (List Place) :=
  match places with
  | [] => (events, none)
  | p :: rest =>
    match _h : respond p t with
    | .take more new => (more.reverse ++ events, some (new ++ rest))
    | .pass more new => accept t (more.reverse ++ events) (new ++ rest)
    | .refuse => (events, none)
termination_by weight places
decreasing_by
  have := weight_of_respond _h
  simp only [weight_append]
  simp only [weight, List.foldr_cons] at *
  omega

def eventsFrom (events : List Event) (places : List Place) : List Token → List Event
  | [] => events.reverse
  | t :: rest =>
    match accept t events places with
    | (events, some places) => eventsFrom events places rest
    | (events, none) => events.reverse

def events (words : List Token) : List Event :=
  eventsFrom [] [.document true] words

end ReportRouting.Yaml
