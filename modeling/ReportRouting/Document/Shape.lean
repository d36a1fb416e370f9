import ReportRouting.Document.Fault

/-!
Records with named fields, whatever document they are read from.

A shape lists the fields of a record. Reading fills a draft, field by field, and refuses a field
that comes twice; a finished draft is a record, or lacks a field. A format says how values are
read at the places `ν` of a kind of document.
-/

namespace ReportRouting

structure Field (m : Type → Type) (ν δ : Type) where
  name : String
  isSet : δ → Bool
  read : ν → δ → m δ

/-- A field whose value the draft keeps as an option. -/
def Field.of {m : Type → Type} [Monad m] {ν δ β : Type} (name : String) (get : δ → Option β)
    (set : β → δ → δ) (read : ν → m β) : Field m ν δ where
  name := name
  isSet d := (get d).isSome
  read place d := do return set (← read place) d

/-- The first `required` fields have no value to fall back on. -/
structure Shape (m : Type → Type) (ν δ α : Type) where
  name : String
  fields : List (Field m ν δ)
  required : Nat
  empty : δ
  finish : δ → Except Mismatch α

structure Format (m : Type → Type) (ν : Type) where
  text : ν → m String
  /-- A text that stands for a value. -/
  parsed : {α : Type} → String → (List Char → Option α) → ν → m α
  /-- One of some named values. -/
  choice : {α : Type} → List (String × α) → ν → m α
  /-- A number of 64 bits. -/
  count : ν → m UInt64
  optional : {α : Type} → (ν → m α) → ν → m (Option α)
  sequence : {α : Type} → (ν → m α) → ν → m (List α)
  record : {δ α : Type} → Shape m ν δ α → ν → m α

end ReportRouting
