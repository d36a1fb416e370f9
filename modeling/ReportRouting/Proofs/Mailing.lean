import ReportRouting.Proofs.Content
import ReportRouting.Proofs.MailHeaders
import ReportRouting.Proofs.Processors
import ReportRouting.Proofs.ProgramRuns

/-!
From the rule file to the runs of a local program.

If every run of the program succeeds, a report that has changes ends in one run for each rule that
asks for some of its logs, in the order of the rules. The run is given the recipients of its rule
and a mail with the texts of exactly the logs that its rule asks for. A faulty rule file, or a log
without a text, ends in no run at all.
-/

namespace ReportRouting

open Text

/-! ### Runs that succeed -/

/-- All runs of a program can be started, take their whole input and end with status zero. -/
def Succeeds (behave : Behaviour) : Prop :=
  ∀ number run, ∃ complaint, behave number run = .ended 0 complaint none

theorem runAllFrom_of_succeeds {behave : Behaviour} (h : Succeeds behave) (program : String)
    (number : Nat) (messages : List Message) :
    runAllFrom program behave number messages = (messages.map Message.run, .ok ()) := by
  refine runAllFrom_of_no_failure fun e he => ?_
  obtain ⟨i, run, rfl⟩ := exists_of_mem_endingsFrom he
  obtain ⟨complaint, hend⟩ := h i run
  rw [hend]
  exact RunEnd.not_fails_of_success complaint

section

variable {d : DeliverySettings} {outside : Outside} {path : String}

theorem deliver_of_succeeds (hserver : d.smtpServer = none) (hprogram : d.program = some path)
    (hpath : path ≠ "") (h : Succeeds (outside.program path)) (dates : Dates) (host : String)
    {groups : List Group} (hgroups : groups ≠ []) :
    deliver d outside dates host groups =
      (⟨[], (d.messages dates host groups).map Message.run⟩, .ok ()) := by
  have htransport := DeliverySettings.transport_of_program hserver hprogram hpath
  rw [deliver_of_transport_eq_ok htransport hgroups, Transport.sendAll_program,
    runAllFrom_of_succeeds h]

theorem mailDispatcher_of_succeeds (hserver : d.smtpServer = none)
    (hprogram : d.program = some path) (hpath : path ≠ "")
    (h : Succeeds (outside.program path)) (dates : Dates) (host : String) {groups : List Group}
    (hgroups : groups ≠ []) (seen : List Trace) :
    mailDispatcher d outside dates host groups seen =
      (⟨[], .ok ()⟩, seen ++ [⟨[], (d.messages dates host groups).map Message.run⟩]) := by
  rw [mailDispatcher, deliver_of_succeeds hserver hprogram hpath h dates host hgroups]

end

/-! ### Mails of rules -/

/-- A run bears the recipients of a rule, and behind the headers of its input stand the texts of
the logs that the rule asks for, with a newline between any two of them and one at the end. -/
structure Rule.IsMailedBy (logs : List LogRecord) (r : Rule) (run : Run) : Prop where
  arguments : run.arguments = r.recipients
  body : ∃ (texts : List String) (body : String),
    List.Forall₂ (fun log text => Record.render log = .ok text) (logs.filter (r.Matches ·)) texts ∧
    body = "\n".intercalate texts ∧
    behindEmptyLine? run.input =
      some (if body.toList.getLast? = some '\n' then body.toList else body.toList ++ ['\n'])

theorem Rule.isMailedBy_message {logs : List LogRecord} {r : Rule} {group : Group}
    (h : r.AnsweredBy logs (.inl group)) (sender subject : String) (date : Stamp) :
    r.IsMailedBy logs (Message.run ⟨sender, group.recipients, subject, date, group.body⟩) := by
  cases h with
  | @group texts _ rendered =>
      exact ⟨rfl, texts, _, rendered, rfl, Message.behindEmptyLine?_text _⟩

/-- The groups of a pass are mailed for the rules that ask for some log, one for each. -/
theorem forall₂_isMailedBy {logs : List LogRecord} {rules : List Rule}
    {answers : List (Group ⊕ Notice)}
    (h : List.Forall₂ (Rule.AnsweredBy logs) rules answers) (d : DeliverySettings) (dates : Dates)
    (host : String) :
    List.Forall₂ (Rule.IsMailedBy logs)
      (rules.filter fun r => ∃ log ∈ logs, r.Matches log)
      ((d.messages dates host (answers.filterMap Sum.getLeft?)).map Message.run) := by
  -- Each of the mails that remain has its own date, so the induction is for any dates.
  induction h generalizing dates with
  | nil => exact .nil
  | @cons r answer rules answers hanswer _ ih =>
      cases answer with
      | inl group =>
          have hmatch : ∃ log ∈ logs, r.Matches log := by
            cases hanswer with
            | group some_match _ => exact some_match
          have hmails := d.messages_cons dates host group (answers.filterMap Sum.getLeft?)
          rw [List.filter_cons_of_pos (by simpa using hmatch)]
          exact hmails ▸ .cons (Rule.isMailedBy_message hanswer _ _ _) (ih _)
      | inr notice =>
          have hnone : ¬∃ log ∈ logs, r.Matches log := by
            cases hanswer with
            | notice no_match => exact fun ⟨log, hmem, hlog⟩ => no_match log hmem hlog
          rw [List.filter_cons_of_neg (by simpa using hnone)]
          exact ih dates

/-! ### Reports -/

theorem Due.isOpen_of_hasChanges {d : Due} (hfile : d.file ≠ .missing)
    (hchanged : d.report.hasChanges = true) : d.IsOpen where
  present := hfile
  changed hcounters := by
    rw [Report.hasChanges_eq_false_iff.2 hcounters] at hchanged
    cases hchanged

section

variable {settings : Settings} {due : Due} {σ : Type}

theorem Due.processWith_of_readRules_eq_error (hopen : due.IsOpen) {text : String}
    {error : MalformedRule} (hread : due.file.readText = .ok text)
    (hrules : readRules text = .error error) (dispatch : Dispatcher σ) (state : σ) :
    processWith due.schedule settings dispatch due.file due.report state =
      (⟨[], .error (.malformedRule error)⟩, state) := by
  rw [processWith_of_open hopen, groupsFor, hread]
  simp only [hrules]

theorem Due.processWith_of_routed_eq_error (hopen : due.IsOpen) {rules : List Rule}
    (hrules : due.HasRules rules) {fault : RenderFault}
    (hresult : (due.routed settings rules).result = .error fault) (dispatch : Dispatcher σ)
    (state : σ) :
    processWith due.schedule settings dispatch due.file due.report state =
      (⟨(due.routed settings rules).notices, .error (.render fault)⟩, state) := by
  rw [processWith_of_open hopen, groupsFor_of_hasRules hrules]
  simp only [hresult, Except.mapError]

theorem Due.processWith_of_routed_eq_ok (hopen : due.IsOpen) {rules : List Rule}
    (hrules : due.HasRules rules) {groups : List Group}
    (hresult : (due.routed settings rules).result = .ok groups) (dispatch : Dispatcher σ)
    (state : σ) :
    processWith due.schedule settings dispatch due.file due.report state =
      if groups = [] then
        (⟨(due.routed settings rules).notices, .ok .nothingMatched⟩, state)
      else
        (answerSent (due.routed settings rules).notices groups
          (dispatch due.report.host groups state).1, (dispatch due.report.host groups state).2) := by
  rw [processWith_of_open hopen, groupsFor_of_hasRules hrules]
  cases groups with
  | nil => simp only [hresult, Except.mapError, if_true]
  | cons group groups => simp only [hresult, Except.mapError, reduceCtorEq, if_false]

end

theorem Due.mailed_of_routed_eq_ok {settings : Settings} {due : Due} {d : DeliverySettings}
    {outside : Outside} {path : String} (hserver : d.smtpServer = none)
    (hprogram : d.program = some path) (hpath : path ≠ "") (h : Succeeds (outside.program path))
    (hopen : due.IsOpen) {rules : List Rule} (hrules : due.HasRules rules) {groups : List Group}
    (hresult : (due.routed settings rules).result = .ok groups) (dates : Dates) (seen : List Trace) :
    let mailed := processWith due.schedule settings (mailDispatcher d outside dates) due.file
      due.report seen
    let runs := (d.messages dates due.report.host groups).map Message.run
    mailed.2.flatMap Trace.runs = seen.flatMap Trace.runs ++ runs ∧
      mailed.1.result = .ok (if runs = [] then .nothingMatched else .dispatched runs.length) := by
  intro mailed runs
  have hmailed : mailed = _ := Due.processWith_of_routed_eq_ok hopen hrules hresult _ seen
  rw [hmailed]
  by_cases hgroups : groups = []
  · subst hgroups
    rw [if_pos rfl]
    exact ⟨(List.append_nil _).symm, rfl⟩
  · have hlength : runs.length = groups.length := by
      rw [List.length_map, DeliverySettings.length_messages]
    have hne : runs ≠ [] := List.ne_nil_of_length_pos (hlength ▸ List.length_pos_iff.2 hgroups)
    rw [if_neg hgroups, mailDispatcher_of_succeeds hserver hprogram hpath h dates _ hgroups,
      if_neg hne]
    constructor
    · rw [List.flatMap_append, List.flatMap_singleton]
    · simp [answerSent, hlength, Except.map]

/-- A report that has changes, mailed by a program whose runs succeed, makes one run for each rule
that asks for some of its logs, in the order of the rules and with the recipients and the texts of
that rule. If the rules cannot be read, or a log that some rule asks for has no text, it makes
none. -/
theorem every_match_is_mailed_once (settings : Settings) (text : String) {d : DeliverySettings}
    {outside : Outside} {path : String} {report : Report} {schedule : List Rule → Schedule}
    (hserver : d.smtpServer = none) (hprogram : d.program = some path) (hpath : path ≠ "")
    (hruns : Succeeds (outside.program path)) (hchanged : report.hasChanges = true)
    (hschedule : ∀ rules, readRules text = .ok rules →
      (schedule rules).Admissible rules report.logs)
    (dates : Dates) (seen : List Trace) :
    let mailed := processWith schedule settings (mailDispatcher d outside dates)
      (.contents (bytesOf text.toList)) report seen
    ∃ runs, mailed.2.flatMap Trace.runs = seen.flatMap Trace.runs ++ runs ∧
      (∀ rules, readRules text = .ok rules → (∀ r ∈ rules, ¬r.Fails report.logs) →
        List.Forall₂ (Rule.IsMailedBy report.logs)
          (rules.filter fun r => ∃ log ∈ report.logs, r.Matches log) runs ∧
        mailed.1.result = .ok (if runs = [] then .nothingMatched else .dispatched runs.length)) ∧
      ((∃ error, readRules text = .error error) ∨
        (∃ rules, readRules text = .ok rules ∧ ∃ r ∈ rules, r.Fails report.logs) →
          runs = [] ∧ ∃ failure, mailed.1.result = .error failure) := by
  intro mailed
  let due : Due := ⟨.contents (bytesOf text.toList), report, schedule⟩
  have hopen : due.IsOpen := Due.isOpen_of_hasChanges nofun hchanged
  have hread : due.file.readText = .ok text := by simp [due, FileState.readText]
  cases hrules : readRules text with
  | error error =>
      have hmailed : mailed = (⟨[], .error (.malformedRule error)⟩, seen) :=
        Due.processWith_of_readRules_eq_error hopen hread hrules _ _
      rw [hmailed]
      exact ⟨[], (List.append_nil _).symm, nofun, fun _ => ⟨rfl, _, rfl⟩⟩
  | ok rules =>
      have hhas : due.HasRules rules := ⟨text, hread, hrules⟩
      have hs := hschedule rules hrules
      have hfails : (∃ groups, (due.routed settings rules).result = .ok groups) ↔
          ∀ r ∈ rules, ¬r.Fails report.logs := exists_ok_routeWith_iff hs
      cases hresult : (due.routed settings rules).result with
      | error fault =>
          have hmailed : mailed =
              (⟨(due.routed settings rules).notices, .error (.render fault)⟩, seen) :=
            Due.processWith_of_routed_eq_error hopen hhas hresult _ _
          have hsome : ¬∀ r ∈ rules, ¬r.Fails report.logs := by
            rw [← hfails, hresult]
            exact fun ⟨_, hok⟩ => nomatch hok
          rw [hmailed]
          refine ⟨[], (List.append_nil _).symm, ?_, fun _ => ⟨rfl, _, rfl⟩⟩
          rintro _ ⟨⟩ hnone
          exact absurd hnone hsome
      | ok groups =>
          have hnone := hfails.1 ⟨groups, hresult⟩
          obtain ⟨answers, haccount⟩ := exists_isAccount hs hresult
          obtain rfl : groups = answers.filterMap Sum.getLeft? :=
            Except.ok.inj (hresult.symm.trans haccount.groups)
          obtain ⟨hseen, hanswer⟩ := Due.mailed_of_routed_eq_ok hserver hprogram hpath hruns hopen
            hhas hresult dates seen
          refine ⟨_, hseen, ?_, ?_⟩
          · rintro _ ⟨⟩ -
            exact ⟨forall₂_isMailedBy haccount.answered d dates report.host, hanswer⟩
          · rintro (⟨_, ⟨⟩⟩ | ⟨_, ⟨⟩, r, hr, hfault⟩)
            exact absurd hfault (hnone r hr)

/-- Each mail has a second of its own, up to the sixtieth. -/
def sampleDates : Dates := fun i =>
  have hsecond : i % 60 < 60 := Nat.mod_lt i (by decide)
  { sampleMail.date with
    clock := ⟨12, 30, i % 60, 0, by decide, by decide, Nat.le_of_lt hsecond, by decide⟩ }

/-- The first rule asks for both logs, the second for none, and the third for the first log. -/
theorem every_match_is_mailed_once_of_sample :
    let d : DeliverySettings := { DeliverySettings.default with program := some "mail" }
    let outside : Outside := ⟨fun _ _ _ => .noAddress, fun _ _ _ => .ended 0 [] none⟩
    let text := "ops@site: all\nweb@site qa@site: web\n# hardware\nhw@site: disk, fan, !noise"
    let mailed := process .default (mailDispatcher d outside sampleDates)
      (.contents (bytesOf text.toList)) ⟨"web01", .unknown, sampleRecords⟩ []
    readRules text = .ok sampleRules ∧ (∀ r ∈ sampleRules, ¬r.Fails sampleRecords) ∧
    ∃ runs, mailed.2.flatMap Trace.runs = runs ∧ mailed.1.result = .ok (.dispatched 2) ∧
      List.Forall₂ (Rule.IsMailedBy sampleRecords) [sampleRules[0], sampleRules[2]] runs := by
  intro d outside text mailed
  have hread : readRules text = .ok sampleRules := by decide +kernel
  have hfine : ∀ r ∈ sampleRules, ¬r.Fails sampleRecords := by decide +kernel
  have hsucceeds : Succeeds (outside.program "mail") := fun _ _ => ⟨[], rfl⟩
  have hchanged : (Report.mk "web01" .unknown sampleRecords).hasChanges = true := rfl
  have hserver : d.smtpServer = none := rfl
  obtain ⟨runs, hruns, hmailed, _⟩ := every_match_is_mailed_once .default text hserver rfl
    (by decide) hsucceeds hchanged (fun rules _ => Schedule.admissible_inOrder rules _)
    sampleDates []
  obtain ⟨hrules, hanswer⟩ := hmailed _ hread hfine
  have hfilter : (sampleRules.filter fun r => ∃ log ∈ sampleRecords, r.Matches log) =
      [sampleRules[0], sampleRules[2]] := by
    decide +kernel
  rw [hfilter] at hrules
  have hlength : 2 = runs.length := hrules.length_eq
  have hne : runs ≠ [] := List.ne_nil_of_length_pos (by omega)
  refine ⟨hread, hfine, runs, hruns, ?_, hrules⟩
  rw [hlength]
  exact hanswer.trans (congrArg Except.ok (if_neg hne))

end ReportRouting
