import ReportRouting.Json.Decode
import ReportRouting.Json.Reader
import ReportRouting.Json.Writer
import ReportRouting.Report.Basic

/-!
Records and reports in JSON.

A record that comes without its time is given the time `now`.
-/

namespace ReportRouting

def LogRecord.ofJson (now : Instant) (v : Json) : Except DocumentFault LogRecord :=
  Json.decodeRecord .value (LogRecord.shape (Json.format .value) now) v.settle

def LogRecord.readJson (now : Instant) (text : String) : Except DocumentFault LogRecord :=
  Json.ofText (Json.decodeRecord .text (LogRecord.shape (Json.format .text) now))
    (Json.read text)

def LogRecord.writeJson (r : LogRecord) : String :=
  r.toJson.render

def Level.ofJson (v : Json) : Except DocumentFault Level :=
  Json.decodeChoice .value Level.named v.settle

def Report.readJson (now : Instant) (text : String) : Except DocumentFault Report :=
  Json.ofText (Json.decodeRecord .text (Report.shape (Json.format .text) now)) (Json.read text)

def Report.writeJson (r : Report) : String :=
  r.toJson.render

end ReportRouting
