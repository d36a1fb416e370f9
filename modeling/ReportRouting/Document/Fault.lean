import ReportRouting.Text.Digits
import ReportRouting.Text.Quoted

/-!
What can be wrong with a document.

A document is unreadable, or one of its values does not fit the place it stands at. A mismatch
says what was found, what was expected, and where.
-/

namespace ReportRouting

/-- What stands where something else was expected. -/
inductive Found where
  | bool (b : Bool)
  | integer (n : Int)
  | wideInteger (n : Int) (width : String)
  | float (text : String)
  | text (s : String)
  | null
  | unit
  | sequence
  | map
  deriving DecidableEq, Repr

def Found.display : Found → String
  | bool b => "boolean `" ++ (if b then "true" else "false") ++ "`"
  | integer n => "integer `" ++ toString n ++ "`"
  | wideInteger n width => "integer `" ++ toString n ++ "` as " ++ width
  | float t => "floating point `" ++ t ++ "`"
  | text s => "string " ++ Text.quoted s
  | null => "null"
  | unit => "unit value"
  | sequence => "sequence"
  | map => "map"

inductive Mismatch where
  | missingField (name : String)
  | duplicateField (name : String)
  | unknownVariant (name : String) (known : List String)
  | invalidType (found : Found) (expected : String)
  | invalidValue (found : Found) (expected : String)
  | invalidLength (length : Nat) (expected : String)
  deriving DecidableEq, Repr

def Mismatch.message : Mismatch → String
  | missingField name => "missing field `" ++ name ++ "`"
  | duplicateField name => "duplicate field `" ++ name ++ "`"
  | unknownVariant name known =>
    "unknown variant `" ++ name ++ "`, expected one of "
      ++ ", ".intercalate (known.map fun k => "`" ++ k ++ "`")
  | invalidType found expected =>
    "invalid type: " ++ found.display ++ ", expected " ++ expected
  | invalidValue found expected =>
    "invalid value: " ++ found.display ++ ", expected " ++ expected
  | invalidLength length expected =>
    "invalid length " ++ toString length ++ ", expected " ++ expected

/-- One step from a value to a value inside it. -/
inductive Step where
  | key (name : String)
  | index (n : Nat)
  | unnamed
  deriving DecidableEq, Repr

/-- The steps to a place of a document, joined by points. The document itself is the place `.`. -/
def pathText (path : List Step) : String :=
  path.foldl (fun parent step =>
      let before := if parent = "." then "" else parent ++ "."
      match step with
      | .key name => before ++ name
      | .index n => parent ++ "[" ++ toString n ++ "]"
      | .unnamed => before ++ "?")
    "."

inductive DocumentFault where
  /-- The text is no document, or a value cannot be represented. -/
  | unreadable
  | mismatch (path : List Step) (mismatch : Mismatch)
  deriving DecidableEq, Repr

/-- What is said about a mismatch; an unreadable document has no further account. -/
def DocumentFault.message? : DocumentFault → Option String
  | unreadable => none
  | mismatch path m =>
    some (if pathText path = "." then m.message else pathText path ++ ": " ++ m.message)

end ReportRouting
