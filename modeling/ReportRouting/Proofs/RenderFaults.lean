import ReportRouting.Proofs.Routing

/-!
Passes that fail.

A pass fails if some rule asks for a record that has no text, and for no other reason. Rules are
taken in their order and records in theirs, so the fault of a pass is that of the first such
record of the first rule that has one. A record that no rule asks for plays no part: it might as
well have another text, or none.
-/

namespace ReportRouting

variable {ρ ε : Type} [Record ρ ε]

/-! ### The fault of a rule -/

/-- A rule asks for a record that has no text. -/
def Rule.Fails (r : Rule) (records : List ρ) : Prop :=
  ∃ record ∈ records, r.Matches record ∧ ∃ fault, Record.render record = .error fault

/-- The fault is that of the first record without a text, among those that a rule asks for. -/
def Rule.HasFirstFault (r : Rule) (records : List ρ) (fault : ε) : Prop :=
  ∃ before record after, records = before ++ record :: after ∧
    (∀ earlier ∈ before, r.Matches earlier → ∃ text, Record.render earlier = .ok text) ∧
    r.Matches record ∧ Record.render record = .error fault

theorem renderAll_eq_error_iff {records : List ρ} {fault : ε} :
    renderAll records = .error fault ↔ records.mapM Record.render = .error fault := by
  rw [renderAll, bind_eq_error_iff, or_iff_left]
  rintro ⟨_, _, h⟩
  cases h

theorem Rule.body?_eq_error_iff_mapM {r : Rule} {records : List ρ} {fault : ε} :
    r.body? records = .error fault ↔ (r.selected records).mapM Record.render = .error fault := by
  rw [← renderAll_eq_error_iff]
  by_cases hselected : r.selected records = []
  · rw [Rule.body?_of_selected_eq_nil hselected, hselected]
    exact ⟨nofun, nofun⟩
  · rw [Rule.body?_of_selected_ne_nil hselected, bind_eq_error_iff, or_iff_left]
    rintro ⟨_, _, h⟩
    cases h

theorem Rule.body?_eq_error_iff {r : Rule} {records : List ρ} {fault : ε} :
    r.body? records = .error fault ↔ r.HasFirstFault records fault := by
  rw [Rule.body?_eq_error_iff_mapM, Rule.selected, mapM_filter_eq_error_iff]
  simp only [Rule.accepts_iff_matches]
  rfl

theorem Rule.exists_body?_eq_error_iff {r : Rule} {records : List ρ} :
    (∃ fault, r.body? records = .error fault) ↔ r.Fails records := by
  simp only [Rule.body?_eq_error_iff_mapM, exists_mapM_eq_error_iff, Rule.selected,
    List.mem_filter, Rule.accepts_iff_matches, and_assoc]
  rfl

theorem Rule.exists_body?_eq_ok_iff {r : Rule} {records : List ρ} :
    (∃ body, r.body? records = .ok body) ↔ ¬r.Fails records := by
  rw [← Rule.exists_body?_eq_error_iff, not_exists_eq_error_iff]

instance (r : Rule) (records : List ρ) : Decidable (r.Fails records) :=
  match h : r.body? records with
  | .error fault => isTrue (Rule.exists_body?_eq_error_iff.1 ⟨fault, h⟩)
  | .ok body => isFalse (Rule.exists_body?_eq_ok_iff.1 ⟨body, h⟩)

/-! ### The fault of a pass -/

/-- The fault is that of the first rule that asks for a record without a text. -/
def IsFirstFault (rules : List Rule) (records : List ρ) (fault : ε) : Prop :=
  ∃ before r after, rules = before ++ r :: after ∧
    (∀ earlier ∈ before, ¬earlier.Fails records) ∧ r.HasFirstFault records fault

theorem account_result_eq_error_iff {rules : List Rule}
    {answers : Except ε (List (Option String))} {fault : ε} :
    (account rules answers).result = .error fault ↔ answers = .error fault := by
  cases answers with
  | error fault' => exact ⟨fun h => by cases h; rfl, fun h => by cases h; rfl⟩
  | ok found => exact ⟨nofun, nofun⟩

theorem routeInOrder_result_eq_error_iff {rules : List Rule} {records : List ρ}
    {fault : ε} :
    (routeInOrder rules records).result = .error fault ↔ IsFirstFault rules records fault := by
  rw [routeInOrder, account_result_eq_error_iff, bodies, mapM_eq_error_iff]
  simp only [Rule.exists_body?_eq_ok_iff, Rule.body?_eq_error_iff]
  rfl

theorem exists_routeInOrder_result_eq_error_iff {rules : List Rule} {records : List ρ} :
    (∃ fault, (routeInOrder rules records).result = .error fault) ↔
      ∃ r ∈ rules, r.Fails records := by
  simp only [routeInOrder, account_result_eq_error_iff, bodies, exists_mapM_eq_error_iff,
    Rule.exists_body?_eq_error_iff]

theorem exists_routeInOrder_result_eq_ok_iff {rules : List Rule} {records : List ρ} :
    (∃ groups, (routeInOrder rules records).result = .ok groups) ↔
      ∀ r ∈ rules, ¬r.Fails records := by
  rw [← not_exists_eq_error_iff, exists_routeInOrder_result_eq_error_iff]
  push Not
  rfl

/-- A pass that fails gives neither groups nor notices. -/
theorem account_of_result_eq_error {rules : List Rule}
    {answers : Except ε (List (Option String))} {fault : ε}
    (h : (account rules answers).result = .error fault) :
    account rules answers = ⟨[], .error fault⟩ := by
  rw [account_result_eq_error_iff.1 h]
  rfl

/-! ### Records that no rule asks for -/

section

variable {ρ' : Type} [Record ρ' ε]

/-- The same rules ask for two records, and those that do are given the same text, or the same
fault. Two records that no rule asks for are always alike. -/
def AlikeFor (rules : List Rule) (record : ρ) (other : ρ') : Prop :=
  ∀ r ∈ rules, (r.Matches record ↔ r.Matches other) ∧
    (r.Matches record → Record.render record = Record.render other)

/-- All that a rule takes from records are the texts of those it selects. -/
theorem Rule.body?_congr {r : Rule} {records : List ρ} {others : List ρ'}
    (h : (r.selected records).map Record.render = (r.selected others).map Record.render) :
    r.body? records = r.body? others := by
  have hrender : renderAll (r.selected records) = renderAll (r.selected others) := by
    rw [renderAll, renderAll, ← mapM_id_map, h, mapM_id_map]
  have hempty : (r.selected records).isEmpty = (r.selected others).isEmpty := by
    rw [← List.isEmpty_map, h, List.isEmpty_map]
  rw [Rule.body?, Rule.body?, hrender, hempty]

theorem map_render_selected_of_alike {r : Rule} {records : List ρ} {others : List ρ'}
    (h : List.Forall₂ (AlikeFor [r]) records others) :
    (r.selected records).map Record.render = (r.selected others).map Record.render := by
  induction h with
  | nil => rfl
  | @cons record other records others halike _ ih =>
      obtain ⟨hmatches, htext⟩ := halike r List.mem_cons_self
      rw [← Rule.accepts_iff_matches, ← Rule.accepts_iff_matches] at hmatches
      rw [Rule.selected, Rule.selected] at ih ⊢
      by_cases haccepts : r.accepts record = true
      · rw [List.filter_cons_of_pos haccepts, List.filter_cons_of_pos (hmatches.1 haccepts),
          List.map_cons, List.map_cons, ih, htext (Rule.accepts_iff_matches.1 haccepts)]
      · rw [List.filter_cons_of_neg haccepts,
          List.filter_cons_of_neg fun hother => haccepts (hmatches.2 hother), ih]

theorem Rule.body?_of_alike {rules : List Rule} {records : List ρ} {others : List ρ'}
    (h : List.Forall₂ (AlikeFor rules) records others) {r : Rule} (hr : r ∈ rules) :
    r.body? records = r.body? others := by
  apply Rule.body?_congr
  apply map_render_selected_of_alike
  refine h.imp fun record other halike r' hr' => ?_
  rw [List.mem_singleton.1 hr']
  exact halike r hr

theorem routeInOrder_of_alike {rules : List Rule} {records : List ρ} {others : List ρ'}
    (h : List.Forall₂ (AlikeFor rules) records others) :
    routeInOrder rules records = routeInOrder rules others := by
  have hbody : ∀ r ∈ rules, r.body? records = r.body? others :=
    fun _ hr => Rule.body?_of_alike h hr
  have hbodies : bodies rules records = bodies rules others := by
    rw [bodies, bodies, ← mapM_id_map, List.map_congr_left hbody, mapM_id_map]
  rw [routeInOrder, routeInOrder, hbodies]

end

/-! ### Logs -/

theorem LogRecord.exists_render_eq_error_iff {log : LogRecord} :
    (∃ fault, Record.render log = .error fault) ↔
      ∀ c ∈ log.message.toList, Text.isBlank c = true := by
  rw [← List.all_eq_true, ← Text.isBlankText]
  show (∃ fault, log.render = .error fault) ↔ _
  rw [LogRecord.render]
  split
  case isTrue hblank => exact ⟨fun _ => hblank, fun _ => ⟨_, rfl⟩⟩
  case isFalse hblank =>
    constructor
    · rintro ⟨_, h⟩
      cases h
    · exact fun h => absurd h hblank

theorem route_of_not_parallel {engine : Engine} {rules : List Rule}
    (h : engine.usesParallel rules.length = false) (records : List ρ) :
    route engine rules records = routeInOrder rules records := by
  rw [route, routeWith, if_neg (Bool.not_eq_true _ ▸ h)]

/-- A pass over one rule after the other fails if some rule asks for a record without a text, with
the first fault of the first such rule, and then it gives nothing at all. Records that no rule asks
for have no influence. Among logs, those without a text are those with a blank message. -/
theorem route_fails_at_first_fault {engine : Engine} {rules : List Rule} (records : List ρ)
    (hsequential : engine.usesParallel rules.length = false) :
    ((∃ fault, (route engine rules records).result = .error fault) ↔
      ∃ r ∈ rules, ∃ record ∈ records, r.Matches record ∧
        ∃ fault, Record.render record = .error fault) ∧
    (∀ fault, (route engine rules records).result = .error fault ↔
      IsFirstFault rules records fault) ∧
    (∀ fault, (route engine rules records).result = .error fault →
      route engine rules records = ⟨[], .error fault⟩) ∧
    (∀ {ρ' : Type} [Record ρ' ε] (others : List ρ'),
      List.Forall₂ (AlikeFor rules) records others →
        route engine rules others = route engine rules records) ∧
    ∀ logs : List LogRecord, (∃ fault, (route engine rules logs).result = .error fault) ↔
      ∃ r ∈ rules, ∃ log ∈ logs, r.Matches log ∧
        ∀ c ∈ log.message.toList, Text.isBlank c = true := by
  simp only [route_of_not_parallel hsequential]
  refine ⟨exists_routeInOrder_result_eq_error_iff, fun _ => routeInOrder_result_eq_error_iff,
    fun _ => account_of_result_eq_error, fun _ h => (routeInOrder_of_alike h).symm, fun logs => ?_⟩
  rw [exists_routeInOrder_result_eq_error_iff]
  simp only [Rule.Fails, LogRecord.exists_render_eq_error_iff]

/-- The second record has no message. -/
def spoiltRecords : List LogRecord := [
  (LogRecord.new .epoch .err "disk full").withTag "disk",
  (LogRecord.new .epoch .warning " \u2003\t").withTags ["fan", "noise"]]

/-- The first rule leaves out the second record, the second rule matches nothing, and the third
rule asks for all records. -/
theorem route_fails_at_first_fault_of_sample :
    let rules := sampleRules.reverse
    Engine.default.usesParallel rules.length = false ∧
    (route .default rules spoiltRecords).result = .error (.noMessage .epoch) ∧
    IsFirstFault rules spoiltRecords (.noMessage .epoch) ∧
    route .default rules spoiltRecords = ⟨[], .error (.noMessage .epoch)⟩ ∧
    ∃ r ∈ rules, ∃ log ∈ spoiltRecords, r.Matches log ∧
      ∀ c ∈ log.message.toList, Text.isBlank c = true := by
  have hsequential : Engine.default.usesParallel sampleRules.reverse.length = false := by decide
  have hresult : (route .default sampleRules.reverse spoiltRecords).result =
      .error (.noMessage .epoch) := by
    decide +kernel
  obtain ⟨_, hfirst, hnothing, _, hlogs⟩ := route_fails_at_first_fault spoiltRecords hsequential
  exact ⟨hsequential, hresult, (hfirst _).1 hresult, hnothing _ hresult,
    (hlogs spoiltRecords).1 ⟨_, hresult⟩⟩

end ReportRouting
