import ReportRouting.File
import ReportRouting.Report.FromJson
import ReportRouting.Yaml.Decode

/-!
Records and reports in YAML, and reports in files.

A record that comes without its time is given the time `now`. The extension of a file says in
which form its report is.
-/

namespace ReportRouting

def LogRecord.readYaml (now : Instant) : String → Except DocumentFault LogRecord :=
  Yaml.ofText fun numbered =>
    Yaml.decodeRecord numbered (LogRecord.shape (Yaml.format numbered) now)

def Report.readYaml (now : Instant) : String → Except DocumentFault Report :=
  Yaml.ofText fun numbered =>
    Yaml.decodeRecord numbered (Report.shape (Yaml.format numbered) now)

/-- Reads the report in a file: as JSON if the name says so, else as YAML. -/
def Report.load (now : Instant) (path : String) (file : FileState) :
    Except Failure Report := do
  let text ← file.readText.mapError .stream
  if extension? path = some "json" then (Report.readJson now text).mapError .json
  else (Report.readYaml now text).mapError .yaml

end ReportRouting
