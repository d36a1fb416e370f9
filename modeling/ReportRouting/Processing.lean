import ReportRouting.File
import ReportRouting.Mail.Delivery
import ReportRouting.Report.Basic
import ReportRouting.Rule.File

/-!
Processing a report: from the rule file and the report to the mails.

A report is dropped when there is no rule file, and when nothing has changed; the rule file is not
read before. Otherwise the rules are read, the logs of the report are routed, and the groups, if
there are any, are handed to a dispatcher, all together and once.
-/

namespace ReportRouting

/-- Takes the groups of a report. A dispatcher may have a state of its own. -/
abbrev Dispatcher (σ : Type) : Type :=
  String → List Group → σ → Logged Failure Unit × σ

inductive Outcome where
  | noRuleFile
  | noChanges
  | nothingMatched
  | dispatched (groups : Nat)
  deriving DecidableEq, Repr

/-- The groups of a report, unless it is dropped. Rules are evaluated as `schedule` has it for them,
if they are evaluated several at a time. -/
def groupsFor (schedule : List Rule → Schedule) (settings : Settings) (file : FileState)
    (report : Report) : Logged Failure (List Group) :=
  match file.readText with
  | .error fault => ⟨[], .error (.stream fault)⟩
  | .ok text =>
    match readRules text with
    | .error error => ⟨[], .error (.malformedRule error)⟩
    | .ok rules =>
      let routed := routeWith settings.engine (schedule rules) rules report.logs
      ⟨routed.notices, routed.result.mapError .render⟩

def processWith {σ : Type} (schedule : List Rule → Schedule) (settings : Settings)
    (dispatch : Dispatcher σ) (file : FileState) (report : Report) (state : σ) :
    Logged Failure Outcome × σ :=
  if !file.isPresent then (⟨[.noRuleFile settings.ruleFile], .ok .noRuleFile⟩, state)
  else if !report.hasChanges then (⟨[.noChanges report.host], .ok .noChanges⟩, state)
  else
    let routed := groupsFor schedule settings file report
    match routed.result with
    | .error failure => (⟨routed.notices, .error failure⟩, state)
    | .ok [] => (⟨routed.notices, .ok .nothingMatched⟩, state)
    | .ok groups =>
      let (sent, state) := dispatch report.host groups state
      (⟨routed.notices ++ sent.notices, sent.result.map fun _ => .dispatched groups.length⟩, state)

def process {σ : Type} (settings : Settings) (dispatch : Dispatcher σ) (file : FileState)
    (report : Report) (state : σ) : Logged Failure Outcome × σ :=
  processWith (fun rules => .inOrder rules.length) settings dispatch file report state

/-! ### Dispatchers that send mails

Their state is what the outside has seen, delivery by delivery. -/

def mailDispatcher (d : DeliverySettings) (outside : Outside) (dates : Dates) :
    Dispatcher (List Trace) := fun host groups traces =>
  let (trace, result) := deliver d outside dates host groups
  (⟨[], result⟩, traces ++ [trace])

def detachedDispatcher (d : DeliverySettings) (outside : Outside) (dates : Dates) :
    Dispatcher (List Trace) := fun host groups traces =>
  let (trace, logged) := deliverDetached d outside dates host groups
  (logged, traces ++ [trace])

end ReportRouting
