import ReportRouting.Json.Decode
import ReportRouting.Proofs.FirstFault
import Mathlib.Data.List.Induction

/-!
What a record takes from a document.

A record stands in a document as an object, or as an array of its fields in order, and a field is
read from the member of its name or from the item in its place. The other members and items have no
part in it. A document that is decoded as a value may name a member twice; the last one counts.
-/

namespace ReportRouting.Json

variable {α β δ : Type}

/-! ### Single values -/

theorem refuse_ne_ok {expected : String} {v : Json} {a : α} : refuse expected v ≠ .ok a := by
  rw [refuse]
  split <;> exact nofun

theorem decodeText_eq_ok_iff {v : Json} {s : String} : decodeText v = .ok s ↔ v = .text s := by
  constructor
  · intro h
    rw [decodeText.eq_def] at h
    split at h
    · rw [Except.ok.inj h]
    · exact absurd h refuse_ne_ok
  · rintro rfl
    rfl

theorem decodeSequence_eq_ok_iff {decode : Json → Decoded α} {v : Json} {as : List α} :
    decodeSequence decode v = .ok as ↔ ∃ items, v = .array items true ∧
      List.Forall₂ (fun w a => decode w = .ok a) items as := by
  constructor
  · intro h
    rw [decodeSequence.eq_def] at h
    split at h
    · obtain ⟨values, hvalues, h⟩ := bind_eq_ok_iff.1 h
      split at h
      case isTrue hclosed =>
        cases h
        exact ⟨_, by rw [hclosed], mapM_eq_ok_iff.1 hvalues⟩
      case isFalse => cases h
    · exact absurd h refuse_ne_ok
  · rintro ⟨items, rfl, h⟩
    exact bind_eq_ok_iff.2 ⟨as, mapM_eq_ok_iff.2 h, rfl⟩

theorem decodeTexts_eq_ok_iff {v : Json} {names : List String} :
    decodeSequence decodeText v = .ok names ↔ v = .array (names.map .text) true := by
  have hitems : ∀ items, List.Forall₂ (fun w s => decodeText w = .ok s) items names ↔
      items = names.map .text := by
    intro items
    simp only [decodeText_eq_ok_iff]
    rw [← List.forall₂_eq_eq_eq, List.forall₂_map_right_iff]
  simp only [decodeSequence_eq_ok_iff, hitems, exists_eq_right]

/-! ### Members and items -/

/-- The values of the members of a name. -/
def valuesNamed (name : String) (members : List (Option String × Json)) : List Json :=
  members.filterMap fun m => if m.1 = some name then some m.2 else none

/-- The values that a document of a record has for a field, by its name or by its place. -/
def fieldValues (name : String) (place : Nat) : Json → List Json
  | .object members _ => valuesNamed name members
  | .array items _ => items[place]?.toList
  | _ => []

/-- The value that counts among those for a field. -/
def field? (name : String) (place : Nat) (v : Json) : Option Json :=
  (v.fieldValues name place).getLast?

section

variable {name : String} {m : Option String × Json} {members done : List (Option String × Json)}

theorem valuesNamed_cons_self (h : m.1 = some name) :
    valuesNamed name (m :: members) = m.2 :: valuesNamed name members :=
  List.filterMap_cons_some (if_pos h)

theorem valuesNamed_cons_of_ne (h : m.1 ≠ some name) :
    valuesNamed name (m :: members) = valuesNamed name members :=
  List.filterMap_cons_none (if_neg h)

theorem valuesNamed_append (members rest : List (Option String × Json)) :
    valuesNamed name (members ++ rest) = valuesNamed name members ++ valuesNamed name rest :=
  List.filterMap_append

theorem mem_valuesNamed_insertMember (h : m.1 = some name) :
    m.2 ∈ valuesNamed name (insertMember m done) := by
  have hself : ∀ rest, m.2 ∈ valuesNamed name (m :: rest) := fun rest => by
    rw [valuesNamed_cons_self h]
    exact List.mem_cons_self
  induction done with
  | nil => exact hself []
  | cons n rest ih =>
      rw [insertMember]
      split
      · exact hself rest
      · split
        · exact hself (n :: rest)
        · by_cases hn : n.1 = some name
          · rw [valuesNamed_cons_self hn]
            exact List.mem_cons_of_mem n.2 ih
          · rwa [valuesNamed_cons_of_ne hn]

theorem valuesNamed_insertMember_of_ne (h : m.1 ≠ some name) :
    valuesNamed name (insertMember m done) = valuesNamed name done := by
  induction done with
  | nil => exact valuesNamed_cons_of_ne h
  | cons n rest ih =>
      rw [insertMember]
      split
      case isTrue hn => rw [valuesNamed_cons_of_ne h, valuesNamed_cons_of_ne (hn ▸ h)]
      case isFalse =>
        split
        · exact valuesNamed_cons_of_ne h
        · by_cases hn : n.1 = some name
          · rw [valuesNamed_cons_self hn, valuesNamed_cons_self hn, ih]
          · rw [valuesNamed_cons_of_ne hn, valuesNamed_cons_of_ne hn, ih]

end

/-! ### Fields

A field among the others of its record, and what a draft keeps of it. -/

/-- Between the fields before it and those after it, the field is the only one of its name and the
only one that changes what `get` finds in a draft, and that is what `read` makes of its value. -/
structure IsField (before : List (Field Decoded Json δ)) (field : Field Decoded Json δ)
    (after : List (Field Decoded Json δ)) (get : δ → Option β) (read : Json → Decoded β) :
    Prop where
  isSet_eq : ∀ d, field.isSet d = (get d).isSome
  get_of_read : ∀ v d d', field.read v d = .ok d' → ∃ b, read v = .ok b ∧ get d' = some b
  name_ne : ∀ other ∈ before ++ after, other.name ≠ field.name
  get_of_other : ∀ other ∈ before ++ after, ∀ v d d', other.read v d = .ok d' → get d' = get d

/-- Every value is read, and the draft keeps what is read, or nothing if there is no value. -/
def Keeps (read : Json → Decoded β) (values : List Json) (kept : Option β) : Prop :=
  (∀ v ∈ values, ∃ b, read v = .ok b ∧ kept = some b) ∧ (values = [] → kept = none)

theorem decodeItems_nil {fields : List (Field Decoded Json δ)} {d : δ} :
    decodeItems fields [] d = .ok d := by
  cases fields <;> rfl

theorem decodeItems_append {before after : List (Field Decoded Json δ)} {items : List Json}
    {d : δ} :
    decodeItems (before ++ after) items d =
      decodeItems before items d >>= decodeItems after (items.drop before.length) := by
  induction before generalizing items d with
  | nil => rfl
  | cons field before ih =>
      cases items with
      | nil =>
          rw [List.drop_nil, decodeItems_nil, decodeItems_nil]
          exact decodeItems_nil.symm
      | cons v items =>
          have hrest : decodeItems (before ++ after) items = fun d₁ =>
              decodeItems before items d₁ >>= decodeItems after (items.drop before.length) :=
            funext fun _ => ih
          rw [List.cons_append, decodeItems, hrest]
          exact (bind_assoc _ _ _).symm

theorem get_of_decodeItems {fields : List (Field Decoded Json δ)} {get : δ → Option β}
    (h : ∀ other ∈ fields, ∀ v d d', other.read v d = .ok d' → get d' = get d)
    {items : List Json} {d d' : δ} (hdecode : decodeItems fields items d = .ok d') :
    get d' = get d := by
  induction fields generalizing items d with
  | nil =>
      cases hdecode
      rfl
  | cons field fields ih =>
      obtain ⟨hfield, hfields⟩ := List.forall_mem_cons.1 h
      cases items with
      | nil =>
          cases hdecode
          rfl
      | cons v items =>
          obtain ⟨d₁, hread, hdecode⟩ := bind_eq_ok_iff.1 hdecode
          rw [ih hfields hdecode, hfield v d d₁ hread]

theorem finishRecord_eq_ok_iff {shape : Shape Decoded Json δ α} {draft : δ} {a : α} :
    finishRecord shape draft = .ok a ↔ shape.finish draft = .ok a := by
  rw [finishRecord]
  cases shape.finish draft with
  | ok a' =>
      exact ⟨fun h => congrArg Except.ok (Except.ok.inj h),
        fun h => congrArg Except.ok (Except.ok.inj h)⟩
  | error m => exact ⟨nofun, nofun⟩

namespace IsField

variable {before after : List (Field Decoded Json δ)} {field : Field Decoded Json δ}
  {get : δ → Option β} {read : Json → Decoded β} {d d' : δ}

section

variable (h : IsField before field after get read)

include h

theorem eq_of_name_eq {other : Field Decoded Json δ} (hmem : other ∈ before ++ field :: after)
    (hname : other.name = field.name) : other = field := by
  rcases List.mem_append.1 hmem with hbefore | hmem
  · exact absurd hname (h.name_ne other (List.mem_append_left after hbefore))
  · rcases List.mem_cons.1 hmem with heq | hafter
    · exact heq
    · exact absurd hname (h.name_ne other (List.mem_append_right before hafter))

theorem get_of_name_ne {other : Field Decoded Json δ} (hmem : other ∈ before ++ field :: after)
    (hname : other.name ≠ field.name) {v : Json} (hread : other.read v d = .ok d') :
    get d' = get d := by
  refine h.get_of_other other ?_ v d d' hread
  rcases List.mem_append.1 hmem with hbefore | hmem
  · exact List.mem_append_left after hbefore
  · rcases List.mem_cons.1 hmem with rfl | hafter
    · exact absurd rfl hname
    · exact List.mem_append_right before hafter

/-- What one member does. -/
theorem cases_of_decodeMembers_cons {m : Option String × Json}
    {rest : List (Option String × Json)}
    (hdecode : decodeMembers (before ++ field :: after) (m :: rest) d = .ok d') :
    ∃ d₁, decodeMembers (before ++ field :: after) rest d₁ = .ok d' ∧
      ((m.1 = some field.name ∧ get d = none ∧ ∃ b, read m.2 = .ok b ∧ get d₁ = some b) ∨
        (m.1 ≠ some field.name ∧ get d₁ = get d)) := by
  obtain ⟨key, v⟩ := m
  cases key with
  | none => cases hdecode
  | some key =>
      rw [decodeMembers] at hdecode
      split at hdecode
      next hfind =>
        refine ⟨d, hdecode, .inr ⟨fun hself => ?_, rfl⟩⟩
        have hother := List.find?_eq_none.1 hfind field
          (List.mem_append_right before List.mem_cons_self)
        exact hother (beq_iff_eq.2 (Option.some.inj hself).symm)
      next other hfind =>
        have hkey : other.name = key := by simpa using List.find?_some hfind
        have hmem := List.mem_of_find?_eq_some hfind
        split at hdecode
        case isTrue => cases hdecode
        case isFalse hset =>
          obtain ⟨d₁, hread, hdecode⟩ := bind_eq_ok_iff.1 hdecode
          refine ⟨d₁, hdecode, ?_⟩
          by_cases hname : other.name = field.name
          · obtain rfl := h.eq_of_name_eq hmem hname
            have hnone : get d = none := by
              rw [h.isSet_eq] at hset
              simpa using hset
            exact .inl ⟨by rw [hkey], hnone, h.get_of_read v d d₁ hread⟩
          · refine .inr ⟨fun hself => hname ?_, h.get_of_name_ne hmem hname hread⟩
            rw [hkey, Option.some.inj hself]

theorem decodeMembers_of_isSome {members : List (Option String × Json)} :
    ∀ {d : δ}, (get d).isSome = true →
      decodeMembers (before ++ field :: after) members d = .ok d' →
        valuesNamed field.name members = [] ∧ get d' = get d := by
  induction members with
  | nil =>
      intro d _ hdecode
      cases hdecode
      exact ⟨rfl, rfl⟩
  | cons m rest ih =>
      intro d hset hdecode
      obtain ⟨d₁, hdecode, ⟨_, hnone, _⟩ | ⟨hname, hget⟩⟩ := h.cases_of_decodeMembers_cons hdecode
      · rw [hnone] at hset
        cases hset
      · obtain ⟨hvalues, hkept⟩ := ih (hget ▸ hset) hdecode
        exact ⟨by rw [valuesNamed_cons_of_ne hname, hvalues], by rw [hkept, hget]⟩

/-- A field comes once at most, so what a draft keeps is what is read from its only value. -/
theorem keeps_of_decodeMembers {members : List (Option String × Json)} :
    ∀ {d : δ}, get d = none → decodeMembers (before ++ field :: after) members d = .ok d' →
      Keeps read (valuesNamed field.name members) (get d') := by
  induction members with
  | nil =>
      intro d hd hdecode
      cases hdecode
      exact ⟨fun v hv => absurd hv List.not_mem_nil, fun _ => hd⟩
  | cons m rest ih =>
      intro d hd hdecode
      obtain ⟨d₁, hdecode, ⟨hname, -, b, hread, hget⟩ | ⟨hname, hget⟩⟩ :=
        h.cases_of_decodeMembers_cons hdecode
      · obtain ⟨hvalues, hkept⟩ := h.decodeMembers_of_isSome (by rw [hget]; rfl) hdecode
        rw [valuesNamed_cons_self hname, hvalues, hkept, hget]
        refine ⟨fun v hv => ⟨b, ?_, rfl⟩, fun hnil => absurd hnil (List.cons_ne_nil _ _)⟩
        rwa [List.mem_singleton.1 hv]
      · rw [valuesNamed_cons_of_ne hname]
        exact ih (by rw [hget, hd]) hdecode

/-- Only the item in the place of a field is read for it. -/
theorem keeps_of_decodeItems {items : List Json} (hd : get d = none)
    (hdecode : decodeItems (before ++ field :: after) items d = .ok d') :
    Keeps read items[before.length]?.toList (get d') := by
  rw [decodeItems_append] at hdecode
  obtain ⟨d₁, hbefore, hdecode⟩ := bind_eq_ok_iff.1 hdecode
  have hothers := List.forall_mem_append.1 h.get_of_other
  have hd₁ := get_of_decodeItems hothers.1 hbefore
  rw [← List.head?_drop]
  cases hitems : items.drop before.length with
  | nil =>
      rw [hitems, decodeItems_nil] at hdecode
      cases hdecode
      exact ⟨fun v hv => absurd hv List.not_mem_nil, fun _ => by rw [hd₁, hd]⟩
  | cons v rest =>
      rw [hitems, decodeItems] at hdecode
      obtain ⟨d₂, hread, hafter⟩ := bind_eq_ok_iff.1 hdecode
      obtain ⟨b, hb, hget⟩ := h.get_of_read v d₁ d₂ hread
      refine ⟨fun w hw => ⟨b, ?_, ?_⟩, fun hnil => absurd hnil (List.cons_ne_nil _ _)⟩
      · rwa [List.mem_singleton.1 hw]
      · rw [get_of_decodeItems hothers.2 hafter, hget]

/-- Of a record that is read, the draft keeps what is read from the values for the field. -/
theorem keeps_of_decodeRecord {shape : Shape Decoded Json δ α} {stage : Stage} {v : Json} {a : α}
    (hfields : shape.fields = before ++ field :: after) (hempty : get shape.empty = none)
    (hdecode : decodeRecord stage shape v = .ok a) :
    ∃ draft, shape.finish draft = .ok a ∧
      Keeps read (v.fieldValues field.name before.length) (get draft) := by
  rw [decodeRecord.eq_def] at hdecode
  split at hdecode
  · obtain ⟨draft, hmembers, hdecode⟩ := bind_eq_ok_iff.1 hdecode
    rw [hfields] at hmembers
    split at hdecode
    case isTrue =>
      exact ⟨draft, finishRecord_eq_ok_iff.1 hdecode, h.keeps_of_decodeMembers hempty hmembers⟩
    case isFalse => cases hdecode
  · obtain ⟨draft, hitems, hdecode⟩ := bind_eq_ok_iff.1 hdecode
    rw [hfields] at hitems
    refine ⟨draft, ?_, h.keeps_of_decodeItems hempty hitems⟩
    split_ifs at hdecode
    · cases stage <;> cases hdecode
    · cases hdecode
    · cases hdecode
    · exact finishRecord_eq_ok_iff.1 hdecode
  · exact absurd hdecode refuse_ne_ok

end

end IsField

theorem read_of_eq_ok_iff {name : String} {get : δ → Option β} {set : β → δ → δ}
    {read : Json → Decoded β} {v : Json} {d d' : δ} :
    (Field.of name get set read).read v d = .ok d' ↔ ∃ b, read v = .ok b ∧ set b d = d' := by
  rw [Field.of, bind_eq_ok_iff]
  exact exists_congr fun b => and_congr_right fun _ => ⟨Except.ok.inj, congrArg Except.ok⟩

theorem IsField.of {name : String} {get : δ → Option β} {set : β → δ → δ}
    {read : Json → Decoded β} {before after : List (Field Decoded Json δ)}
    (hset : ∀ b d, get (set b d) = some b) (hname : ∀ other ∈ before ++ after, other.name ≠ name)
    (hother : ∀ other ∈ before ++ after, ∀ v d d', other.read v d = .ok d' → get d' = get d) :
    IsField before (.of name get set read) after get read where
  isSet_eq _ := rfl
  get_of_read _ d _ h := by
    obtain ⟨b, hread, rfl⟩ := read_of_eq_ok_iff.1 h
    exact ⟨b, hread, hset b d⟩
  name_ne := hname
  get_of_other := hother

/-- A field leaves what is kept of another one. -/
theorem get_of_read_of {name : String} {γ : Type} {get : δ → Option β} {get' : δ → Option γ}
    {set : γ → δ → δ} {read : Json → Decoded γ} (hset : ∀ c d, get (set c d) = get d) :
    ∀ v d d', (Field.of name get' set read).read v d = .ok d' → get d' = get d := by
  intro v d d' h
  obtain ⟨c, -, rfl⟩ := read_of_eq_ok_iff.1 h
  exact hset c d

theorem eq_ok_of_ofText {decode : Json → Decoded α} {document : Json × Bool} {a : α}
    (h : ofText decode document = .ok a) : decode document.1 = .ok a := by
  obtain ⟨a', hdecode, h⟩ := bind_eq_ok_iff.1 h
  split at h
  · cases h
    exact hdecode
  · cases h

theorem Keeps.rel_getLast? {read : Json → Decoded β} {values : List Json} {kept : Option β}
    (h : Keeps read values kept) : Option.Rel (fun v b => read v = .ok b) values.getLast? kept := by
  cases hlast : values.getLast? with
  | none =>
      rw [h.2 (List.getLast?_eq_none_iff.1 hlast)]
      exact .none
  | some v =>
      obtain ⟨b, hread, rfl⟩ := h.1 v (List.mem_of_getLast? hlast)
      exact .some hread

/-! ### Documents as values -/

theorem settleItems_eq_map (items : List Json) : settleItems items = items.map settle := by
  induction items with
  | nil => rfl
  | cons v items ih => rw [settleItems, ih, List.map_cons]

theorem settleMembers_eq_map (members : List (Option String × Json)) :
    settleMembers members = members.map fun m => (m.1, m.2.settle) := by
  induction members with
  | nil => rfl
  | cons m members ih => rw [settleMembers, ih, List.map_cons, settleMember]

theorem settle_eq_text_iff {v : Json} {s : String} : v.settle = .text s ↔ v = .text s := by
  cases v <;> simp [settle]

theorem settle_eq_texts {v : Json} {names : List String}
    (h : v.settle = .array (names.map .text) true) : v = .array (names.map .text) true := by
  cases v with
  | array items closed =>
      rw [settle, settleItems_eq_map, Json.array.injEq] at h
      obtain ⟨hitems, rfl⟩ := h
      rw [← List.forall₂_eq_eq_eq, List.forall₂_map_left_iff, List.forall₂_map_right_iff] at hitems
      simp only [settle_eq_text_iff] at hitems
      rw [← List.forall₂_map_right_iff, List.forall₂_eq_eq_eq] at hitems
      rw [hitems]
  | object members closed =>
      rw [settle] at h
      cases h
  | _ => cases h

theorem valuesNamed_settleMembers (name : String) (members : List (Option String × Json)) :
    valuesNamed name (settleMembers members) = (valuesNamed name members).map settle := by
  rw [settleMembers_eq_map]
  induction members with
  | nil => rfl
  | cons m members ih =>
      rw [List.map_cons]
      by_cases hm : m.1 = some name
      · have hsettled : (m.1, m.2.settle).1 = some name := hm
        rw [valuesNamed_cons_self hm, valuesNamed_cons_self hsettled, ih, List.map_cons]
      · have hsettled : (m.1, m.2.settle).1 ≠ some name := hm
        rw [valuesNamed_cons_of_ne hm, valuesNamed_cons_of_ne hsettled, ih]

/-- Of the members of a name the last one is left. -/
theorem valuesNamed_foldl_insertMember (name : String) (members : List (Option String × Json)) :
    let left := valuesNamed name (members.foldl (fun done m => insertMember m done) [])
    (∀ v, (valuesNamed name members).getLast? = some v → v ∈ left) ∧
      (valuesNamed name members = [] → left = []) := by
  -- The last member is put in last, so the induction takes it off first.
  induction members using List.reverseRecOn with
  | nil => exact ⟨nofun, fun _ => rfl⟩
  | append_singleton members m ih =>
      rw [List.foldl_append, List.foldl_cons, List.foldl_nil, valuesNamed_append]
      by_cases hm : m.1 = some name
      · rw [valuesNamed_cons_self hm]
        refine ⟨fun v hv => ?_, fun hnil => by simp at hnil⟩
        have hlast : m.2 = v := by simpa [valuesNamed] using hv
        exact hlast ▸ mem_valuesNamed_insertMember hm
      · have hnone : valuesNamed name [m] = [] := valuesNamed_cons_of_ne hm
        rw [hnone, List.append_nil, valuesNamed_insertMember_of_ne hm]
        exact ih

theorem fieldValues_settle (name : String) (place : Nat) (v : Json) :
    (∀ w, v.field? name place = some w → w.settle ∈ v.settle.fieldValues name place) ∧
      (v.field? name place = none → v.settle.fieldValues name place = []) := by
  rw [field?]
  cases v with
  | object members closed =>
      obtain ⟨hlast, hnone⟩ := valuesNamed_foldl_insertMember name (settleMembers members)
      rw [valuesNamed_settleMembers] at hlast hnone
      rw [settle, fieldValues, fieldValues, List.getLast?_eq_none_iff]
      refine ⟨fun w hw => hlast w.settle ?_, fun hnil => hnone (by rw [hnil]; rfl)⟩
      rw [List.getLast?_map, hw]
      rfl
  | array items closed =>
      rw [settle, fieldValues, fieldValues, settleItems_eq_map, List.getElem?_map]
      cases items[place]? with
      | none => exact ⟨nofun, fun _ => rfl⟩
      | some w =>
          refine ⟨fun w' hw => ?_, fun hw => by cases hw⟩
          cases hw
          exact List.mem_singleton_self _
  | _ => exact ⟨nofun, fun _ => rfl⟩

/-- What is read from a settled document is read from the value that counts, if settling is not seen
by `read`. -/
theorem Keeps.rel_field?_of_settle {name : String} {place : Nat} {v : Json}
    {read : Json → Decoded β} {kept : Option β}
    (hread : ∀ {w b}, read w.settle = .ok b → read w = .ok b)
    (h : Keeps read (v.settle.fieldValues name place) kept) :
    Option.Rel (fun w b => read w = .ok b) (v.field? name place) kept := by
  obtain ⟨hlast, hnone⟩ := fieldValues_settle name place v
  cases hfield : v.field? name place with
  | none =>
      rw [h.2 (hnone hfield)]
      exact .none
  | some w =>
      obtain ⟨b, hb, rfl⟩ := h.1 w.settle (hlast w hfield)
      exact .some (hread hb)

end ReportRouting.Json
