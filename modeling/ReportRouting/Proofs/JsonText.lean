import ReportRouting.Json.Reader
import ReportRouting.Proofs.JsonWords

/-!
Documents of JSON, written and read again.

A value is read back wherever one may stand, in front of whatever may follow it, with the
containers around it as they were. So a container is read back once its items are, one item after
the other, and a document is read back with nothing behind it.
-/

namespace ReportRouting.Json

/-- A document with nothing broken in it, nothing cut short, and its numbers in proper form. -/
inductive IsWhole : Json → Prop where
  | null : IsWhole .null
  | bool (b : Bool) : IsWhole (.bool b)
  | number {n : Numeral} (h : IsProper n) : IsWhole (.number n)
  | text (s : String) : IsWhole (.text s)
  | array {items : List Json} (h : ∀ v ∈ items, IsWhole v) : IsWhole (.array items true)
  | object (members : List (String × Json)) (h : ∀ m ∈ members, IsWhole m.2) :
      IsWhole (.object (members.map fun m => (some m.1, m.2)) true)

/-- A value may come next, be it at the start of an array or not. -/
def Place.AwaitsValue : Place → Prop
  | .value | .firstItem => True
  | _ => False

/-- The reader passes over the text of a value and has the value. -/
def ReadsBack (v : Json) : Prop :=
  ∀ (frames : List Frame) {place : Place} {rest : List Char}, place.AwaitsValue → Delimited rest →
    readFrom frames place (write v ++ rest) = readFrom frames (.afterValue v) rest

/-! ### One word -/

theorem dropWhile_isSpace_of_takeWord? {s rest : List Char} {t : Token}
    (h : takeWord? s = some (t, rest)) : s.dropWhile isSpace = s := by
  cases s with
  | nil => rfl
  | cons c s =>
      refine List.dropWhile_cons_of_neg fun hc => ?_
      simp only [isSpace, Bool.or_eq_true, beq_iff_eq] at hc
      rcases hc with ((rfl | rfl) | rfl) | rfl <;> cases h

theorem readFrom_next {frames frames' : List Frame} {place place' : Place} {s rest : List Char}
    {t : Token} (hword : takeWord? s = some (t, rest))
    (hmove : move frames place t = .next frames' place') :
    readFrom frames place s = readFrom frames' place' rest := by
  have hdrop := dropWhile_isSpace_of_takeWord? hword
  rw [readFrom]
  split
  · next h =>
    rw [hdrop, hword] at h
    cases h
  · next t₁ rest₁ h =>
    rw [hdrop, hword] at h
    obtain ⟨rfl, rfl⟩ := Prod.mk.inj (Option.some.inj h)
    rw [hmove]

@[simp] theorem readFrom_afterValue_nil (v : Json) : readFrom [] (.afterValue v) [] = (v, true) := by
  rw [readFrom]
  rfl

theorem move_of_awaitsValue {place : Place} (hplace : place.AwaitsValue) {t : Token}
    (ht : t ≠ .closeArray) (frames : List Frame) : move frames place t = moveAtValue frames t := by
  match place, hplace with
  | .value, _ => rfl
  | .firstItem, _ =>
      rw [move]
      exact ht

theorem moveAtValue_of_scalar? {frames : List Frame} {t : Token} {v : Json}
    (ht : t.scalar? = some v) : moveAtValue frames t = .next frames (.afterValue v) := by
  unfold moveAtValue
  split
  · cases ht
  · cases ht
  · rw [ht]

theorem readsBack_of_scalar? {v : Json} {t : Token}
    (hword : ∀ rest, Delimited rest → takeWord? (write v ++ rest) = some (t, rest))
    (ht : t.scalar? = some v) : ReadsBack v :=
  fun frames _ rest hplace hrest => readFrom_next (hword rest hrest)
    ((move_of_awaitsValue hplace (by rintro rfl; cases ht) frames).trans
      (moveAtValue_of_scalar? ht))

theorem delimited_cons {c : Char} (hc : c ∈ [',', ']', '\x7d']) (rest : List Char) :
    Delimited (c :: rest) := by
  rintro d ⟨⟩
  exact hc

theorem delimited_nil : Delimited [] :=
  fun _ hc => nomatch hc

/-! ### Containers -/

theorem readFrom_writeItems {frames : List Frame} {rest : List Char} {items : List Json} :
    ∀ {v : Json} {place : Place} (done : List Json), place.AwaitsValue →
      (∀ w ∈ v :: items, ReadsBack w) →
        readFrom (.array done :: frames) place (writeItems (v :: items) ++ ']' :: rest) =
          readFrom frames (.afterValue (.array (done.reverse ++ v :: items) true)) rest := by
  induction items with
  | nil =>
      intro v place done hplace hall
      have hv := hall v List.mem_cons_self (.array done :: frames) hplace
        (delimited_cons (c := ']') (by simp) rest)
      have hclose : move (.array done :: frames) (.afterValue v) .closeArray =
          .next frames (.afterValue (.array (v :: done).reverse true)) := rfl
      rw [writeItems, hv, readFrom_next rfl hclose, List.reverse_cons]
  | cons w items ih =>
      intro v place done hplace hall
      have hv := hall v List.mem_cons_self (.array done :: frames) hplace
        (delimited_cons (c := ',') (by simp) (writeItems (w :: items) ++ ']' :: rest))
      have hcomma : move (.array done :: frames) (.afterValue v) .comma =
          .next (.array (v :: done) :: frames) .value := rfl
      have hvalue : Place.value.AwaitsValue := trivial
      have hrest := ih (v := w) (v :: done) hvalue
        fun u hu => hall u (List.mem_cons_of_mem v hu)
      rw [writeItems, List.append_assoc, List.cons_append, hv, readFrom_next rfl hcomma, hrest,
        List.reverse_cons, List.append_assoc, List.singleton_append]

theorem readsBack_array {items : List Json} (h : ∀ v ∈ items, ReadsBack v) :
    ReadsBack (.array items true) := by
  intro frames place rest hplace hrest
  rw [write, List.append_assoc, List.cons_append, List.singleton_append,
    readFrom_next rfl (move_of_awaitsValue hplace (t := .openArray) nofun frames)]
  cases items with
  | nil => exact readFrom_next rfl rfl
  | cons v items => exact readFrom_writeItems [] trivial h

theorem readFrom_writeMember {frames : List Frame} {place : Place} {rest : List Char}
    {done : List (Option String × Json)} {name : String} {v : Json}
    (hplace : move frames place (.text (some name)) = .next frames (.colon done (some name)))
    (hv : ReadsBack v) (hrest : Delimited rest) :
    readFrom frames place (writeMember (some name, v) ++ rest) =
      readFrom (.object done (some name) :: frames) (.afterValue v) rest := by
  have hcolon : move frames (.colon done (some name)) .colon =
      .next (.object done (some name) :: frames) .value := rfl
  rw [writeMember, List.append_assoc, List.cons_append, Option.getD_some,
    readFrom_next (takeWord?_writeText name _) hplace, readFrom_next rfl hcolon]
  exact hv (.object done (some name) :: frames) trivial hrest

theorem readFrom_writeMembers {frames : List Frame} {rest : List Char}
    {members : List (String × Json)} :
    ∀ {m : String × Json} {place : Place} (done : List (Option String × Json)),
      (∀ name, move frames place (.text (some name)) = .next frames (.colon done (some name))) →
      (∀ n ∈ m :: members, ReadsBack n.2) →
        readFrom frames place
            (writeMembers ((m :: members).map fun m => (some m.1, m.2)) ++ '\x7d' :: rest) =
          readFrom frames (.afterValue (.object
            (done.reverse ++ (m :: members).map fun m => (some m.1, m.2)) true)) rest := by
  induction members with
  | nil =>
      intro m place done hplace hall
      have hm := readFrom_writeMember (hplace m.1) (hall m List.mem_cons_self)
        (delimited_cons (c := '\x7d') (by simp) rest)
      have hclose : move (.object done (some m.1) :: frames) (.afterValue m.2) .closeObject =
          .next frames (.afterValue (.object ((some m.1, m.2) :: done).reverse true)) := rfl
      rw [List.map_cons, List.map_nil, writeMembers, hm, readFrom_next rfl hclose,
        List.reverse_cons]
  | cons n members ih =>
      intro m place done hplace hall
      have hm := readFrom_writeMember (hplace m.1) (hall m List.mem_cons_self)
        (delimited_cons (c := ',') (by simp)
          (writeMembers ((n :: members).map fun m => (some m.1, m.2)) ++ '\x7d' :: rest))
      have hcomma : move (.object done (some m.1) :: frames) (.afterValue m.2) .comma =
          .next frames (.name ((some m.1, m.2) :: done)) := rfl
      have hname : ∀ name, move frames (.name ((some m.1, m.2) :: done)) (.text (some name)) =
          .next frames (.colon ((some m.1, m.2) :: done) (some name)) := fun _ => rfl
      have hrest := ih (m := n) ((some m.1, m.2) :: done) hname
        fun u hu => hall u (List.mem_cons_of_mem m hu)
      rw [List.map_cons, List.map_cons, writeMembers, List.append_assoc, List.cons_append,
        ← List.map_cons (f := fun m : String × Json => (some m.1, m.2)), hm,
        readFrom_next rfl hcomma, hrest, List.reverse_cons, List.append_assoc,
        List.singleton_append]

theorem readsBack_object {members : List (String × Json)} (h : ∀ m ∈ members, ReadsBack m.2) :
    ReadsBack (.object (members.map fun m => (some m.1, m.2)) true) := by
  intro frames place rest hplace hrest
  rw [write, List.append_assoc, List.cons_append, List.singleton_append,
    readFrom_next rfl (move_of_awaitsValue hplace (t := .openObject) nofun frames)]
  cases members with
  | nil => exact readFrom_next rfl rfl
  | cons m members => exact readFrom_writeMembers [] (fun _ => rfl) h

/-! ### Documents -/

theorem IsWhole.readsBack {v : Json} (h : IsWhole v) : ReadsBack v := by
  induction h with
  | null => exact readsBack_of_scalar? (fun _ _ => rfl) rfl
  | bool b => cases b <;> exact readsBack_of_scalar? (fun _ _ => rfl) rfl
  | number h => exact readsBack_of_scalar? (fun _ hrest => takeWord?_writeNumeral h hrest) rfl
  | text s => exact readsBack_of_scalar? (fun rest _ => takeWord?_writeText s rest) rfl
  | array _ ih => exact readsBack_array ih
  | object _ _ ih => exact readsBack_object ih

/-- A whole document is read from its text as it was, and nothing is left behind it. -/
theorem read_render {v : Json} (h : IsWhole v) : read (render v) = (v, true) := by
  have hvalue : Place.value.AwaitsValue := trivial
  have hread := h.readsBack [] hvalue delimited_nil
  rw [List.append_nil, readFrom_afterValue_nil] at hread
  rw [read, render, String.toList_ofList, hread]

end ReportRouting.Json
