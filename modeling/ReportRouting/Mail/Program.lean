import ReportRouting.Failure
import ReportRouting.Mail.Message
import ReportRouting.Text.Blank
import ReportRouting.Text.Lossy

/-!
Delivery by a local program.

The program is run once for each message, with the recipients as its arguments and the text of
the message as its input. A run that ends without success counts as failed for that reason, even
if its input could not be written either.
-/

namespace ReportRouting

/-- What a program is given. -/
structure Run where
  arguments : List String
  input : List Char
  deriving DecidableEq, Repr

/-- What becomes of a run. -/
inductive RunEnd where
  | notStarted (reason : String)
  /-- How the run has ended could not be found out. -/
  | lost (reason : String)
  /-- The exit status, what was written to the error stream, and why the input could not be
  written, if it could not. -/
  | ended (status : Nat) (complaint : List UInt8) (inputFault : Option String)
  /-- The same for a run that has no exit status, since a signal ended it. -/
  | killed (signal : String) (complaint : List UInt8) (inputFault : Option String)
  deriving DecidableEq, Repr

def Message.run (m : Message) : Run :=
  ⟨m.recipients, m.text⟩

def trimmedComplaint (complaint : List UInt8) : String :=
  String.ofList (Text.trim (Text.lossy complaint))

def RunEnd.check (program : String) : RunEnd → Except Failure Unit
  | .notStarted reason => .error (.delivery (.notStarted program reason))
  | .lost reason => .error (.stream (.refused reason))
  | .ended status complaint inputFault =>
    if status != 0 then
      .error (.delivery (.exited program status (trimmedComplaint complaint)))
    else
      match inputFault with
      | some reason => .error (.delivery (.inputRefused program reason))
      | none => .ok ()
  | .killed signal complaint _ =>
    .error (.delivery (.killed program signal (trimmedComplaint complaint)))

/-- How a program behaves: what becomes of its run with a number, counted from zero. -/
abbrev Behaviour : Type :=
  Nat → Run → RunEnd

/-- Runs the program for messages up to the first that fails; `number` is the number of the first
run. All runs that took place are given, also the failed one. -/
def runAllFrom (program : String) (behave : Behaviour) (number : Nat) :
    List Message → List Run × Except Failure Unit
  | [] => ([], .ok ())
  | m :: rest =>
    match (behave number m.run).check program with
    | .error failure => ([m.run], .error failure)
    | .ok () =>
      let (runs, result) := runAllFrom program behave (number + 1) rest
      (m.run :: runs, result)

def runAll (program : String) (behave : Behaviour) (messages : List Message) :
    List Run × Except Failure Unit :=
  runAllFrom program behave 0 messages

end ReportRouting
