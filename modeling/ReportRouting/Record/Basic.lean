import ReportRouting.Time.Format

/-!
Records, as routing sees them.

Of a record only two things matter: which tags it carries, and the text it contributes to the
body of a mail, if it has one. Why a record has no text is for each kind of records to say.
-/

namespace ReportRouting

/-- Why a record has no text. -/
inductive RenderFault where
  /-- A log record without a message; it is known by its time. -/
  | noMessage (time : Instant)
  | refused (reason : String)
  deriving DecidableEq

def RenderFault.reason : RenderFault → String
  | noMessage time => "log record at " ++ time.offsetText ++ " has no message"
  | refused reason => reason

class Record (ρ : Type) (ε : outParam Type) where
  isTagged : ρ → String → Bool
  render : ρ → Except ε String

/-- The texts of some records, one below the other, up to the first record without one. -/
def renderAll {ρ ε : Type} [Record ρ ε] (records : List ρ) : Except ε String := do
  let texts ← records.mapM Record.render
  return "\n".intercalate texts

end ReportRouting
