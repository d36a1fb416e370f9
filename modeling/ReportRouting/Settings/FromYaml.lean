import ReportRouting.File
import ReportRouting.Settings.Basic
import ReportRouting.Yaml.Decode

/-!
Settings in YAML.

Whatever a document does not set has its default. Settings are validated once they have been read.
-/

namespace ReportRouting

open Yaml (Decoded Spot)

structure ParallelDraft where
  enabled : Option Bool := none
  minRules : Option UInt64 := none

structure EngineDraft where
  parallel : Option Engine := none

structure DeliveryDraft where
  smtpServer : Option (Option String) := none
  smtpPort : Option UInt16 := none
  smtpHelo : Option String := none
  program : Option (Option String) := none
  sender : Option String := none
  subjectPrefix : Option String := none
  timeout : Option UInt64 := none

structure SettingsDraft where
  ruleFile : Option String := none
  engine : Option Engine := none
  delivery : Option DeliverySettings := none

section

variable (numbered : List (Nat × Yaml.Node))

def decodePath : Spot → Decoded String :=
  Yaml.decodeText numbered "path string"

/-- A path that may be unset; the empty path is. -/
def decodeOptionalPath (spot : Spot) : Decoded (Option String) :=
  return (← Yaml.decodeOptional numbered (decodePath numbered) spot).filter (!·.isEmpty)

def parallelShape : Shape Decoded Spot ParallelDraft Engine where
  name := "ParallelConfig"
  fields := [
    .of "enabled" ParallelDraft.enabled (fun v d => { d with enabled := some v })
      (Yaml.decodeBool numbered),
    .of "min_rules" ParallelDraft.minRules (fun v d => { d with minRules := some v })
      (Yaml.decodeCount numbered "usize")]
  required := 0
  empty := {}
  finish d :=
    .ok ⟨d.enabled.getD Engine.default.parallel, d.minRules.getD Engine.default.minRules⟩

def engineShape : Shape Decoded Spot EngineDraft Engine where
  name := "EngineConfig"
  fields := [
    .of "parallel" EngineDraft.parallel (fun v d => { d with parallel := some v })
      (Yaml.decodeRecord numbered (parallelShape numbered))]
  required := 0
  empty := {}
  finish d := .ok (d.parallel.getD .default)

def deliveryShape : Shape Decoded Spot DeliveryDraft DeliverySettings where
  name := "DeliveryConfig"
  fields := [
    .of "smtp_server" DeliveryDraft.smtpServer (fun v d => { d with smtpServer := some v })
      (Yaml.decodeOptional numbered (Yaml.decodeText numbered "a string")),
    .of "smtp_port" DeliveryDraft.smtpPort (fun v d => { d with smtpPort := some v })
      (Yaml.decodeShort numbered),
    .of "smtp_helo" DeliveryDraft.smtpHelo (fun v d => { d with smtpHelo := some v })
      (Yaml.decodeText numbered "a string"),
    .of "sendmail" DeliveryDraft.program (fun v d => { d with program := some v })
      (decodeOptionalPath numbered),
    .of "report_from" DeliveryDraft.sender (fun v d => { d with sender := some v })
      (Yaml.decodeText numbered "a string"),
    .of "subject_prefix" DeliveryDraft.subjectPrefix (fun v d => { d with subjectPrefix := some v })
      (Yaml.decodeText numbered "a string"),
    .of "timeout_secs" DeliveryDraft.timeout (fun v d => { d with timeout := some v })
      (Yaml.decodeCount numbered "u64")]
  required := 0
  empty := {}
  finish d :=
    let default := DeliverySettings.default
    .ok {
      smtpServer := d.smtpServer.getD default.smtpServer
      smtpPort := d.smtpPort.getD default.smtpPort
      smtpHelo := d.smtpHelo.getD default.smtpHelo
      program := d.program.getD default.program
      sender := d.sender.getD default.sender
      subjectPrefix := d.subjectPrefix.getD default.subjectPrefix
      timeout := d.timeout.getD default.timeout }

def settingsShape : Shape Decoded Spot SettingsDraft Settings where
  name := "TagmailConfig"
  fields := [
    .of "tagmap" SettingsDraft.ruleFile (fun v d => { d with ruleFile := some v })
      (decodePath numbered),
    .of "engine" SettingsDraft.engine (fun v d => { d with engine := some v })
      (Yaml.decodeRecord numbered (engineShape numbered)),
    .of "delivery" SettingsDraft.delivery (fun v d => { d with delivery := some v })
      (Yaml.decodeRecord numbered (deliveryShape numbered))]
  required := 0
  empty := {}
  finish d :=
    .ok ⟨d.ruleFile.getD Settings.default.ruleFile, d.engine.getD .default,
      d.delivery.getD .default⟩

end

def Settings.readYaml (text : String) : Except Failure Settings := do
  let decode (numbered : List (Nat × Yaml.Node)) := Yaml.decodeRecord numbered (settingsShape numbered)
  let settings ← (Yaml.ofText decode text).mapError .yaml
  settings.validate.mapError .settings
  return settings

def Settings.load (file : FileState) : Except Failure Settings := do
  Settings.readYaml (← file.readText.mapError .stream)

end ReportRouting
