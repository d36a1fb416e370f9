import ReportRouting.Document.Shape
import ReportRouting.Json.Basic
import ReportRouting.Record.Basic
import ReportRouting.Record.TagSet
import ReportRouting.Text.Blank
import ReportRouting.Time.Reader

/-!
Log records: what a run had to say about one of its steps.
-/

namespace ReportRouting

/-- How severe a log record is, the least severe level first. -/
inductive Level where
  | debug
  | info
  | notice
  | warning
  | err
  | alert
  | emerg
  | crit
  deriving DecidableEq, Repr

namespace Level

def name : Level → String
  | debug => "debug"
  | info => "info"
  | notice => "notice"
  | warning => "warning"
  | err => "err"
  | alert => "alert"
  | emerg => "emerg"
  | crit => "crit"

def all : List Level :=
  [debug, info, notice, warning, err, alert, emerg, crit]

/-- The levels by their names. -/
def named : List (String × Level) :=
  all.map fun level => (level.name, level)

instance : Ord Level where
  compare a b := compare a.ctorIdx b.ctorIdx

end Level

structure LogRecord where
  level : Level
  message : String
  source : String
  time : Instant
  tags : TagSet
  deriving DecidableEq

namespace LogRecord

/-! ### Making records -/

def new (now : Instant) (level : Level) (message : String) : LogRecord :=
  { level, message, source := "", time := now, tags := .empty }

def withSource (r : LogRecord) (source : String) : LogRecord :=
  { r with source }

def withTime (r : LogRecord) (time : Instant) : LogRecord :=
  { r with time }

def withTag (r : LogRecord) (tag : String) : LogRecord :=
  { r with tags := r.tags.insert tag }

def withTags (r : LogRecord) (tags : List String) : LogRecord :=
  { r with tags := r.tags.insertAll tags }

/-! ### Rendering -/

/-- Time, source, level and message; the source is left out when it is empty. -/
def render (r : LogRecord) : Except RenderFault String :=
  if Text.isBlankText r.message then .error (.noMessage r.time)
  else
    .ok (r.time.spacedText ++ (if r.source.isEmpty then "" else " " ++ r.source)
      ++ " (" ++ r.level.name ++ "): " ++ r.message)

instance : Record LogRecord RenderFault where
  isTagged r tag := r.tags.contains tag
  render := render

/-! ### Documents -/

/-- The fields of a record as they come; a record without a time is of now. -/
structure Draft where
  level : Option Level := none
  message : Option String := none
  source : Option String := none
  time : Option Instant := none
  tags : Option TagSet := none

def Draft.finish (now : Instant) (d : Draft) : Except Mismatch LogRecord :=
  match d.level, d.message with
  | none, _ => .error (.missingField "level")
  | some _, none => .error (.missingField "message")
  | some level, some message =>
    .ok { level, message, source := d.source.getD "", time := d.time.getD now,
          tags := d.tags.getD .empty }

def shape {m : Type → Type} [Monad m] {ν : Type} (f : Format m ν) (now : Instant) :
    Shape m ν Draft LogRecord where
  name := "LogRecord"
  fields := [
    .of "level" Draft.level (fun v d => { d with level := some v }) (f.choice Level.named),
    .of "message" Draft.message (fun v d => { d with message := some v }) f.text,
    .of "source" Draft.source (fun v d => { d with source := some v }) f.text,
    .of "time" Draft.time (fun v d => { d with time := some v })
      (f.parsed "an RFC 3339 formatted date and time string" Instant.read),
    .of "tags" Draft.tags (fun v d => { d with tags := some v })
      (fun place => return TagSet.ofList (← f.sequence f.text place))]
  required := 2
  empty := {}
  finish := Draft.finish now

def toJson (r : LogRecord) : Json :=
  .object [
    (some "level", .text r.level.name),
    (some "message", .text r.message),
    (some "source", .text r.source),
    (some "time", .text r.time.zuluText),
    (some "tags", .array (r.tags.names.map .text) true)] true

end LogRecord

end ReportRouting
