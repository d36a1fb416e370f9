import ReportRouting.Processing
import ReportRouting.Proofs.Schedules

/-!
Runs of a processor.

Around a processor the rule file changes and reports come in. What becomes of a report depends on
the rule file as it is by then and on the report, and on nothing that happened before: the only
memory is the dispatcher's own. A report is either closed without the dispatcher, in one of six
ways, or it yields groups, and these go to the dispatcher all together and once.
-/

namespace ReportRouting

open Text

/-! ### One report -/

/-- A report, the rule file it meets, and the schedule of its rules. -/
structure Due where
  file : FileState
  report : Report
  schedule : List Rule → Schedule

namespace Due

structure IsOpen (d : Due) : Prop where
  present : d.file ≠ .missing
  changed : d.report.counters ≠ ⟨some 0, some 0⟩

def HasRules (d : Due) (rules : List Rule) : Prop :=
  ∃ text, d.file.readText = .ok text ∧ readRules text = .ok rules

def routed (d : Due) (settings : Settings) (rules : List Rule) : Logged RenderFault (List Group) :=
  routeWith settings.engine (d.schedule rules) rules d.report.logs

/-- The report is closed with an answer, and nothing is dispatched. -/
inductive Closes (settings : Settings) (d : Due) : Logged Failure Outcome → Prop
  | noRuleFile (absent : d.file = .missing) :
      Closes settings d ⟨[.noRuleFile settings.ruleFile], .ok .noRuleFile⟩
  | noChanges (present : d.file ≠ .missing)
      (unchanged : d.report.counters = ⟨some 0, some 0⟩) :
      Closes settings d ⟨[.noChanges d.report.host], .ok .noChanges⟩
  | notRead {fault : StreamFault} (is_open : d.IsOpen)
      (unread : d.file.readText = .error fault) :
      Closes settings d ⟨[], .error (.stream fault)⟩
  | malformed {text : String} {error : MalformedRule} (is_open : d.IsOpen)
      (read : d.file.readText = .ok text) (refused : readRules text = .error error) :
      Closes settings d ⟨[], .error (.malformedRule error)⟩
  | notRendered {rules : List Rule} {fault : RenderFault} (is_open : d.IsOpen)
      (has_rules : d.HasRules rules) (failed : (d.routed settings rules).result = .error fault) :
      Closes settings d ⟨[], .error (.render fault)⟩
  | nothingMatched {rules : List Rule} (is_open : d.IsOpen) (has_rules : d.HasRules rules)
      (no_group : (d.routed settings rules).result = .ok []) :
      Closes settings d ⟨(d.routed settings rules).notices, .ok .nothingMatched⟩

/-- The report yields groups, and the notices that routing gave on the way. -/
inductive Yields (settings : Settings) (d : Due) : List Notice → List Group → Prop
  | groups {rules : List Rule} {groups : List Group} (is_open : d.IsOpen)
      (has_rules : d.HasRules rules) (routed : (d.routed settings rules).result = .ok groups)
      (some_group : groups ≠ []) :
      Yields settings d (d.routed settings rules).notices groups

end Due

/-- What is made of the answer of a dispatcher to some groups. -/
def answerSent (notices : List Notice) (groups : List Group) (sent : Logged Failure Unit) :
    Logged Failure Outcome :=
  ⟨notices ++ sent.notices, sent.result.map fun _ => .dispatched groups.length⟩

theorem Report.hasChanges_eq_false_iff {report : Report} :
    report.hasChanges = false ↔ report.counters = ⟨some 0, some 0⟩ := by
  obtain ⟨host, ⟨outOfSync, changed⟩, logs⟩ := report
  simp [Report.hasChanges]

theorem FileState.isPresent_eq_false_iff {file : FileState} :
    file.isPresent = false ↔ file = .missing := by
  cases file <;> simp [FileState.isPresent]

namespace Due

variable {settings : Settings} {d : Due}

theorem groupsFor_of_hasRules {rules : List Rule} (h : d.HasRules rules) :
    groupsFor d.schedule settings d.file d.report =
      ⟨(d.routed settings rules).notices, (d.routed settings rules).result.mapError .render⟩ := by
  obtain ⟨text, hread, hrules⟩ := h
  simp only [groupsFor, hread, hrules, routed]

theorem processWith_of_open (h : d.IsOpen) {σ : Type} (dispatch : Dispatcher σ) (state : σ) :
    processWith d.schedule settings dispatch d.file d.report state =
      match (groupsFor d.schedule settings d.file d.report).result with
      | .error failure => (⟨(groupsFor d.schedule settings d.file d.report).notices,
          .error failure⟩, state)
      | .ok [] => (⟨(groupsFor d.schedule settings d.file d.report).notices,
          .ok .nothingMatched⟩, state)
      | .ok groups => (answerSent (groupsFor d.schedule settings d.file d.report).notices groups
          (dispatch d.report.host groups state).1, (dispatch d.report.host groups state).2) := by
  have hpresent := eq_true_of_ne_false (mt FileState.isPresent_eq_false_iff.1 h.present)
  have hchanged := eq_true_of_ne_false (mt Report.hasChanges_eq_false_iff.1 h.changed)
  rw [processWith, hpresent, hchanged]
  rfl

/-- All that may become of a report, whoever the dispatcher is. -/
theorem closes_or_yields (settings : Settings) (d : Due) :
    (∃ answer, d.Closes settings answer ∧
      ∀ {σ : Type} (dispatch : Dispatcher σ) (state : σ),
        processWith d.schedule settings dispatch d.file d.report state = (answer, state)) ∨
    ∃ notices groups, d.Yields settings notices groups ∧
      ∀ {σ : Type} (dispatch : Dispatcher σ) (state : σ),
        processWith d.schedule settings dispatch d.file d.report state =
          (answerSent notices groups (dispatch d.report.host groups state).1,
            (dispatch d.report.host groups state).2) := by
  by_cases hfile : d.file = .missing
  · refine .inl ⟨_, .noRuleFile hfile, fun _ _ => ?_⟩
    rw [processWith, hfile]
    rfl
  by_cases hcounters : d.report.counters = ⟨some 0, some 0⟩
  · refine .inl ⟨_, .noChanges hfile hcounters, fun _ _ => ?_⟩
    have hpresent := eq_true_of_ne_false (mt FileState.isPresent_eq_false_iff.1 hfile)
    rw [processWith, hpresent, Report.hasChanges_eq_false_iff.2 hcounters]
    rfl
  have hopen : d.IsOpen := ⟨hfile, hcounters⟩
  simp only [processWith_of_open hopen]
  cases hread : d.file.readText with
  | error fault =>
      refine .inl ⟨_, .notRead hopen hread, fun _ _ => ?_⟩
      simp only [groupsFor, hread]
  | ok text =>
      cases hrules : readRules text with
      | error error =>
          refine .inl ⟨_, .malformed hopen hread hrules, fun _ _ => ?_⟩
          simp only [groupsFor, hread, hrules]
      | ok rules =>
          have hhas : d.HasRules rules := ⟨text, hread, hrules⟩
          simp only [groupsFor_of_hasRules hhas]
          cases hresult : (d.routed settings rules).result with
          | error fault =>
              refine .inl ⟨_, .notRendered hopen hhas hresult, fun _ _ => ?_⟩
              have hnotices : (d.routed settings rules).notices = [] :=
                congrArg Logged.notices (routeWith_of_result_eq_error hresult).1
              rw [hnotices]
              rfl
          | ok groups =>
              cases groups with
              | nil => exact .inl ⟨_, .nothingMatched hopen hhas hresult, fun _ _ => rfl⟩
              | cons first groups =>
                  exact .inr ⟨_, _, .groups hopen hhas hresult (List.cons_ne_nil _ _),
                    fun _ _ => rfl⟩

end Due

/-! ### Dispatchers that keep their calls -/

structure Call where
  host : String
  groups : List Group
  deriving DecidableEq, Repr

/-- A dispatcher that also keeps its calls, the latest last. -/
def Dispatcher.keepingCalls {σ : Type} (dispatch : Dispatcher σ) : Dispatcher (σ × List Call) :=
  fun host groups state =>
    ((dispatch host groups state.1).1,
      ((dispatch host groups state.1).2, state.2 ++ [⟨host, groups⟩]))

/-- What became of a report: the answer, the calls of the dispatcher, and its state before and
after them. -/
structure Handling (σ : Type) where
  due : Due
  before : σ
  answer : Logged Failure Outcome
  calls : List Call
  after : σ

def Due.handle {σ : Type} (settings : Settings) (dispatch : Dispatcher σ) (state : σ) (d : Due) :
    Handling σ :=
  let (answer, after, calls) :=
    processWith d.schedule settings dispatch.keepingCalls d.file d.report (state, [])
  ⟨d, state, answer, calls, after⟩

inductive Handling.IsSettled {σ : Type} (settings : Settings) (dispatch : Dispatcher σ) :
    Handling σ → Prop
  | closed {d : Due} {state : σ} {answer : Logged Failure Outcome}
      (closes : d.Closes settings answer) :
      IsSettled settings dispatch ⟨d, state, answer, [], state⟩
  | dispatched {d : Due} {state after : σ} {notices : List Notice} {groups : List Group}
      {sent : Logged Failure Unit} (yields : d.Yields settings notices groups)
      (called : dispatch d.report.host groups state = (sent, after)) :
      IsSettled settings dispatch
        ⟨d, state, answerSent notices groups sent, [⟨d.report.host, groups⟩], after⟩

section

variable {σ τ : Type} {settings : Settings}

theorem Due.isSettled_handle (dispatch : Dispatcher σ) (state : σ) (d : Due) :
    (d.handle settings dispatch state).IsSettled settings dispatch := by
  rcases d.closes_or_yields settings with ⟨answer, hcloses, hprocess⟩ |
    ⟨notices, groups, hyields, hprocess⟩
  · rw [handle, hprocess]
    exact .closed hcloses
  · rw [handle, hprocess]
    exact .dispatched hyields rfl

/-- Keeping the calls changes nothing else. -/
theorem Due.processWith_eq_handle (dispatch : Dispatcher σ) (state : σ) (d : Due) :
    processWith d.schedule settings dispatch d.file d.report state =
      ((d.handle settings dispatch state).answer, (d.handle settings dispatch state).after) := by
  rcases d.closes_or_yields settings with ⟨_, _, hprocess⟩ | ⟨_, _, _, hprocess⟩
  · rw [handle, hprocess, hprocess]
  · rw [handle, hprocess, hprocess]
    rfl

/-- The calls do not depend on the dispatcher and its state, nor does an answer without one. -/
theorem Due.handle_independent (dispatch : Dispatcher σ) (dispatch' : Dispatcher τ) (state : σ)
    (state' : τ) (d : Due) :
    (d.handle settings dispatch state).calls = (d.handle settings dispatch' state').calls ∧
      ((d.handle settings dispatch state).calls = [] →
        (d.handle settings dispatch state).answer =
          (d.handle settings dispatch' state').answer) := by
  rcases d.closes_or_yields settings with ⟨_, _, hprocess⟩ | ⟨_, _, _, hprocess⟩
  · rw [handle, handle, hprocess, hprocess]
    exact ⟨rfl, fun _ => rfl⟩
  · rw [handle, handle, hprocess, hprocess]
    exact ⟨rfl, nofun⟩

end

/-! ### Runs -/

inductive Event where
  | ruleFile (file : FileState)
  | report (report : Report) (schedule : List Rule → Schedule)

/-- The reports of a run, each with the rule file as it was last changed before. -/
def due : FileState → List Event → List Due
  | _, [] => []
  | _, .ruleFile file :: events => due file events
  | file, .report report schedule :: events => ⟨file, report, schedule⟩ :: due file events

/-- Handles the reports of a run; the dispatcher keeps its state from one to the next. -/
def handleAll {σ : Type} (settings : Settings) (dispatch : Dispatcher σ) :
    FileState → σ → List Event → List (Handling σ)
  | _, _, [] => []
  | _, state, .ruleFile file :: events => handleAll settings dispatch file state events
  | file, state, .report report schedule :: events =>
    let handling := Due.handle settings dispatch state ⟨file, report, schedule⟩
    handling :: handleAll settings dispatch file handling.after events

section

variable {σ τ : Type} {settings : Settings} {dispatch : Dispatcher σ}

theorem map_due_handleAll (file : FileState) (state : σ) (events : List Event) :
    (handleAll settings dispatch file state events).map Handling.due = due file events := by
  induction events generalizing file state with
  | nil => rfl
  | cons event events ih =>
      cases event with
      | ruleFile file' => exact ih file' state
      | report report schedule => exact congrArg _ (ih file _)

theorem exists_of_mem_handleAll {file : FileState} {state : σ} {events : List Event}
    {h : Handling σ} (hmem : h ∈ handleAll settings dispatch file state events) :
    h = h.due.handle settings dispatch h.before := by
  induction events generalizing file state with
  | nil => cases hmem
  | cons event events ih =>
      cases event with
      | ruleFile file' => exact ih hmem
      | report report schedule =>
          rcases List.mem_cons.1 hmem with rfl | hmem
          · rfl
          · exact ih hmem

theorem Handling.IsSettled.length_calls_le {h : Handling σ}
    (hsettled : h.IsSettled settings dispatch) : h.calls.length ≤ 1 := by
  cases hsettled with
  | closed _ => exact Nat.zero_le _
  | dispatched _ _ => exact Nat.le_refl _

theorem Handling.IsSettled.severities {h : Handling σ} (hsettled : h.IsSettled settings dispatch)
    (hfile : h.due.file = .missing) :
    h.answer.notices.map Notice.severity = [.warn] := by
  cases hsettled with
  | closed closes =>
      cases closes with
      | noRuleFile _ => rfl
      | noChanges present _ => exact absurd hfile present
      | notRead is_open _ => exact absurd hfile is_open.present
      | malformed is_open _ _ => exact absurd hfile is_open.present
      | notRendered is_open _ _ => exact absurd hfile is_open.present
      | nothingMatched is_open _ _ => exact absurd hfile is_open.present
  | dispatched yields _ =>
      cases yields with
      | groups is_open _ _ _ => exact absurd hfile is_open.present

end

/-- Every report of a run is handled once, with the rule file as it is by then, and settled by the
two of them: what became of another report, in this run or in any other and with whatever
dispatcher, makes no difference to the calls, nor to an answer that takes no call. -/
theorem handleAll_settles_each_report {σ : Type} (settings : Settings) (dispatch : Dispatcher σ)
    (file : FileState) (state : σ) (events : List Event) :
    let handlings := handleAll settings dispatch file state events
    handlings.map Handling.due = due file events ∧
    (∀ h ∈ handlings, h.IsSettled settings dispatch ∧ h.calls.length ≤ 1 ∧
      (h.due.file = .missing → h.answer.notices.map Notice.severity = [.warn]) ∧
      processWith h.due.schedule settings dispatch h.due.file h.due.report h.before =
        (h.answer, h.after)) ∧
    ∀ {τ : Type} (dispatch' : Dispatcher τ) (file' : FileState) (state' : τ)
      (events' : List Event), ∀ h ∈ handlings,
        ∀ h' ∈ handleAll settings dispatch' file' state' events', h.due = h'.due →
          h.calls = h'.calls ∧ (h.calls = [] → h.answer = h'.answer) := by
  intro handlings
  refine ⟨map_due_handleAll file state events, fun h hmem => ?_, ?_⟩
  · have hhandle := exists_of_mem_handleAll hmem
    have hsettled : h.IsSettled settings dispatch :=
      hhandle ▸ Due.isSettled_handle dispatch h.before h.due
    refine ⟨hsettled, hsettled.length_calls_le, hsettled.severities, ?_⟩
    rw [Due.processWith_eq_handle, ← hhandle]
  · intro τ dispatch' file' state' events' h hmem h' hmem' hdue
    rw [exists_of_mem_handleAll hmem, exists_of_mem_handleAll hmem', hdue]
    exact Due.handle_independent dispatch dispatch' h.before h'.before h'.due

/-- A dispatcher that fails from its second call on. -/
def failingDispatcher : Dispatcher Nat := fun _ _ calls =>
  (⟨[], if calls = 0 then .ok () else .error (.delivery .noTransport)⟩, calls + 1)

/-- The same report comes in while there is no rule file, with a faulty one, and twice with a good
one; in between a report without changes meets the faulty file. -/
def sampleEvents : List Event :=
  let report : Event :=
    .report ⟨"web01", .unknown, sampleRecords⟩ (fun rules => .inOrder rules.length)
  [report,
    .ruleFile (.contents (bytesOf "ops@site: disk, !disk\nqa@site".toList)),
    report,
    .report ⟨"web01", ⟨some 0, some 0⟩, sampleRecords⟩ (fun rules => .inOrder rules.length),
    .ruleFile (.contents (bytesOf "ops@site: disk\n# all\nqa@site: web".toList)),
    report,
    report]

theorem handleAll_settles_each_report_of_sample :
    let handlings := handleAll .default failingDispatcher .missing 0 sampleEvents
    let call : Call := ⟨"web01", [⟨["ops@site"], "1970-01-01 00:00:00 +0000 (err): disk full"⟩]⟩
    handlings.map Handling.calls = [[], [], [], [call], [call]] ∧
    handlings.map (fun h => h.answer.result) = [.ok .noRuleFile,
      .error (.malformedRule ⟨2, "qa@site", .noSeparator⟩), .ok .noChanges, .ok (.dispatched 1),
      .error (.delivery .noTransport)] ∧
    ∀ h ∈ handlings, h.IsSettled .default failingDispatcher := by
  have hsettled := (handleAll_settles_each_report .default failingDispatcher .missing 0
    sampleEvents).2.1
  exact ⟨by decide +kernel, by decide +kernel, fun h hmem => (hsettled h hmem).1⟩

end ReportRouting
