import ReportRouting.Record.LogRecord

/-!
Reports: what one host has to say about one run.
-/

namespace ReportRouting

/-- How many resources were found out of sync and how many were changed, where that is known. -/
structure Counters where
  outOfSync : Option UInt64
  changed : Option UInt64
  deriving DecidableEq, Repr

def Counters.unknown : Counters :=
  ⟨none, none⟩

structure Report where
  host : String
  counters : Counters
  logs : List LogRecord
  deriving DecidableEq

namespace Report

def new (host : String) : Report :=
  ⟨host, .unknown, []⟩

def withResources (r : Report) (outOfSync changed : UInt64) : Report :=
  { r with counters := ⟨some outOfSync, some changed⟩ }

def withLog (r : Report) (log : LogRecord) : Report :=
  { r with logs := r.logs ++ [log] }

/-- Only a run that counts no resource out of sync and none changed is without changes. -/
def hasChanges (r : Report) : Bool :=
  !(r.counters.outOfSync == some 0 && r.counters.changed == some 0)

/-! ### Documents

The counters stand two records below the report. -/

structure CountersDraft where
  outOfSync : Option (Option UInt64) := none
  changed : Option (Option UInt64) := none

structure MetricsDraft where
  resources : Option Counters := none

structure Draft where
  host : Option String := none
  metrics : Option Counters := none
  logs : Option (List LogRecord) := none

variable {m : Type → Type} [Monad m] {ν : Type}

def countersShape (f : Format m ν) : Shape m ν CountersDraft Counters where
  name := "ResourceMetrics"
  fields := [
    .of "out_of_sync" CountersDraft.outOfSync (fun v d => { d with outOfSync := some v })
      (f.optional f.count),
    .of "changed" CountersDraft.changed (fun v d => { d with changed := some v })
      (f.optional f.count)]
  required := 0
  empty := {}
  finish d := .ok ⟨d.outOfSync.getD none, d.changed.getD none⟩

def metricsShape (f : Format m ν) : Shape m ν MetricsDraft Counters where
  name := "ReportMetrics"
  fields := [
    .of "resources" MetricsDraft.resources (fun v d => { d with resources := some v })
      (f.record (countersShape f))]
  required := 0
  empty := {}
  finish d := .ok (d.resources.getD .unknown)

def shape (f : Format m ν) (now : Instant) : Shape m ν Draft Report where
  name := "Report"
  fields := [
    .of "host" Draft.host (fun v d => { d with host := some v }) f.text,
    .of "metrics" Draft.metrics (fun v d => { d with metrics := some v })
      (f.record (metricsShape f)),
    .of "logs" Draft.logs (fun v d => { d with logs := some v })
      (f.sequence (f.record (LogRecord.shape f now)))]
  required := 1
  empty := {}
  finish d :=
    match d.host with
    | none => .error (.missingField "host")
    | some host => .ok ⟨host, d.metrics.getD .unknown, d.logs.getD []⟩

def counterToJson : Option UInt64 → Json
  | none => .null
  | some n => .number (.ofNat n.toNat)

def toJson (r : Report) : Json :=
  .object [
    (some "host", .text r.host),
    (some "metrics", .object [
      (some "resources", .object [
        (some "out_of_sync", counterToJson r.counters.outOfSync),
        (some "changed", counterToJson r.counters.changed)] true)] true),
    (some "logs", .array (r.logs.map LogRecord.toJson) true)] true

end Report

end ReportRouting
