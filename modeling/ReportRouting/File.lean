import ReportRouting.Failure
import ReportRouting.Text.Bytes

/-!
What may be found at a path, and the extension of its name.
-/

namespace ReportRouting

inductive FileState where
  | missing
  | directory
  | contents (bytes : List UInt8)
  /-- A file that is there but cannot be read. -/
  | locked (reason : String)
  deriving DecidableEq, Repr

namespace FileState

/-- Whether there is anything at the path. -/
def isPresent : FileState → Bool
  | missing => false
  | _ => true

def readText : FileState → Except StreamFault String
  | missing => .error .notFound
  | directory => .error .isDirectory
  | contents bytes =>
    match Text.text? bytes with
    | some s => .ok s
    | none => .error .notText
  | locked reason => .error (.refused reason)

end FileState

/-- What follows the last point of a name, unless that point comes first. -/
def extension? (path : String) : Option String :=
  let name := (path.toList.reverse.dropWhile (· == '/')).takeWhile (· != '/')
  if name == ['.', '.'] then none
  else
    match name.dropWhile (· != '.') with
    | '.' :: _ :: _ => some (String.ofList (name.takeWhile (· != '.')).reverse)
    | _ => none

end ReportRouting
