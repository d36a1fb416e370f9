import ReportRouting.Proofs.FirstFault
import ReportRouting.Record.LogRecord
import ReportRouting.Route.Schedule

/-!
What routing owes to every rule.

A pass over some records gives every rule one answer: a group with the texts of the records that
the rule asks for, or, if there is no such record, a notice. `Rule.AnsweredBy` says what an answer
has to be, without regard to how rules are evaluated; the groups and the notices of a pass are
the two halves of one list of answers that stands beside the rules.

Rules may also be evaluated several at a time. What is known of such an evaluation is
`Schedule.Admissible`, and it is enough: an evaluation without a fault has the body of every rule
at the place of the rule.
-/

namespace ReportRouting

variable {ρ ε : Type} [Record ρ ε]

/-! ### The records of a rule -/

/-- A rule asks for the records that carry one of its wanted tags, or for all records if the
wildcard is among these, but for none that carries one of its unwanted tags. -/
def Rule.Matches (r : Rule) (record : ρ) : Prop :=
  (wildcardTag ∈ r.tags.positive ∨ ∃ t ∈ r.tags.positive, Record.isTagged record t = true) ∧
    ∀ t ∈ r.tags.negative, Record.isTagged record t = false

theorem Rule.accepts_iff_matches {r : Rule} {record : ρ} :
    r.accepts record = true ↔ r.Matches record :=
  TagExpr.accepts_iff

instance (r : Rule) (record : ρ) : Decidable (r.Matches record) :=
  decidable_of_iff _ r.accepts_iff_matches

theorem Rule.selected_eq_filter (r : Rule) (records : List ρ) :
    r.selected records = records.filter (r.Matches ·) := by
  refine List.filter_congr fun record _ => ?_
  rw [Bool.eq_iff_iff, decide_eq_true_iff]
  exact r.accepts_iff_matches

theorem Rule.selected_eq_nil_iff {r : Rule} {records : List ρ} :
    r.selected records = [] ↔ ∀ record ∈ records, ¬r.Matches record := by
  rw [Rule.selected_eq_filter, List.filter_eq_nil_iff]
  simp only [decide_eq_true_eq]

/-! ### The body of a rule -/

theorem renderAll_eq_ok_iff {records : List ρ} {body : String} :
    renderAll records = .ok body ↔
      ∃ texts, List.Forall₂ (fun record text => Record.render record = .ok text) records texts ∧
        body = "\n".intercalate texts := by
  rw [renderAll, bind_eq_ok_iff]
  simp only [mapM_eq_ok_iff]
  constructor
  · rintro ⟨texts, htexts, h⟩
    exact ⟨texts, htexts, (Except.ok.inj h).symm⟩
  · rintro ⟨texts, htexts, rfl⟩
    exact ⟨texts, htexts, rfl⟩

theorem Rule.body?_of_selected_eq_nil {r : Rule} {records : List ρ}
    (h : r.selected records = []) : r.body? records = .ok none := by
  rw [Rule.body?, h]
  rfl

theorem Rule.body?_of_selected_ne_nil {r : Rule} {records : List ρ}
    (h : r.selected records ≠ []) :
    r.body? records = renderAll (r.selected records) >>= fun body => .ok (some body) := by
  rw [Rule.body?, List.isEmpty_eq_false_iff.2 h]
  rfl

theorem Rule.body?_eq_none_iff {r : Rule} {records : List ρ} :
    r.body? records = .ok none ↔ ∀ record ∈ records, ¬r.Matches record := by
  rw [← Rule.selected_eq_nil_iff]
  refine ⟨fun hbody => ?_, Rule.body?_of_selected_eq_nil⟩
  by_contra hselected
  rw [Rule.body?_of_selected_ne_nil hselected, bind_eq_ok_iff] at hbody
  obtain ⟨body, _, h⟩ := hbody
  cases h

theorem Rule.body?_eq_some_iff {r : Rule} {records : List ρ} {body : String} :
    r.body? records = .ok (some body) ↔
      (∃ record ∈ records, r.Matches record) ∧ renderAll (r.selected records) = .ok body := by
  have hmatch : (∃ record ∈ records, r.Matches record) ↔ r.selected records ≠ [] := by
    rw [Ne, Rule.selected_eq_nil_iff]
    push Not
    rfl
  rw [hmatch]
  constructor
  · intro hbody
    have hselected : r.selected records ≠ [] := by
      intro hnil
      rw [Rule.body?_of_selected_eq_nil hnil] at hbody
      cases hbody
    rw [Rule.body?_of_selected_ne_nil hselected, bind_eq_ok_iff] at hbody
    obtain ⟨text, htext, h⟩ := hbody
    cases h
    exact ⟨hselected, htext⟩
  · rintro ⟨hselected, hbody⟩
    rw [Rule.body?_of_selected_ne_nil hselected, hbody]
    rfl

/-! ### Answers -/

/-- What a rule may be answered with: the texts of its records in one body, or a notice that it
has none. -/
inductive Rule.AnsweredBy (records : List ρ) (r : Rule) : Group ⊕ Notice → Prop
  | group {texts : List String} (some_match : ∃ record ∈ records, r.Matches record)
      (rendered : List.Forall₂ (fun record text => Record.render record = .ok text)
        (records.filter (r.Matches ·)) texts) :
      AnsweredBy records r (.inl ⟨r.recipients, "\n".intercalate texts⟩)
  | notice (no_match : ∀ record ∈ records, ¬r.Matches record) :
      AnsweredBy records r (.inr (.noMessages (",".intercalate r.recipients) r.line))

/-- The answer that the pass gives to a rule with a body or without. -/
def Rule.answer (r : Rule) : Option String → Group ⊕ Notice
  | some body => .inl ⟨r.recipients, body⟩
  | none => .inr (.noMessages r.recipientList r.line)

theorem Rule.answeredBy_answer {records : List ρ} {r : Rule} {body : Option String}
    (h : r.body? records = .ok body) : r.AnsweredBy records (r.answer body) := by
  cases body with
  | none => exact .notice (Rule.body?_eq_none_iff.1 h)
  | some body =>
      obtain ⟨hmatch, hbody⟩ := Rule.body?_eq_some_iff.1 h
      obtain ⟨texts, htexts, rfl⟩ := renderAll_eq_ok_iff.1 hbody
      rw [Rule.selected_eq_filter] at htexts
      exact .group hmatch htexts

@[simp] theorem Rule.getLeft?_answer (r : Rule) (body : Option String) :
    (r.answer body).getLeft? = r.group? body := by
  cases body <;> rfl

@[simp] theorem Rule.getRight?_answer (r : Rule) (body : Option String) :
    (r.answer body).getRight? = r.notice? body := by
  cases body <;> rfl

/-- The groups and the notices of a pass are the two halves of its answers. -/
theorem account_ok (rules : List Rule) (bodies : List (Option String)) :
    account rules (.ok bodies : Except ε _) =
      ⟨(List.zipWith Rule.answer rules bodies).filterMap Sum.getRight?,
        .ok ((List.zipWith Rule.answer rules bodies).filterMap Sum.getLeft?)⟩ := by
  have hzip : List.zipWith Rule.answer rules bodies =
      (rules.zip bodies).map fun p => p.1.answer p.2 := by
    rw [List.zip, List.map_zipWith]
  rw [account, hzip, List.filterMap_map, List.filterMap_map]
  simp only [Function.comp_def, Rule.getLeft?_answer, Rule.getRight?_answer]

theorem answeredBy_zipWith_answer {records : List ρ} {rules : List Rule}
    {bodies : List (Option String)}
    (h : List.Forall₂ (fun r body => r.body? records = .ok body) rules bodies) :
    List.Forall₂ (Rule.AnsweredBy records) rules (List.zipWith Rule.answer rules bodies) := by
  induction h with
  | nil => exact .nil
  | cons hbody _ ih => exact .cons (Rule.answeredBy_answer hbody) ih

/-! ### Rules evaluated several at a time -/

/-- The rules in their order are an admissible schedule. -/
theorem Schedule.admissible_inOrder (rules : List Rule) (records : List ρ) :
    (Schedule.inOrder rules.length).Admissible rules records where
  nodup := List.nodup_range
  complete := .inl fun _ hi => List.mem_range.2 hi

/-- An evaluation that takes place is found under the number of its rule. -/
theorem Schedule.lookup_evaluations {s : Schedule} {rules : List Rule} {records : List ρ}
    {i : Nat} {r : Rule} (hi : i ∈ s.order) (hr : rules[i]? = some r) :
    (s.evaluations rules records).lookup i = some (r.body? records) := by
  obtain ⟨order, blame⟩ := s
  simp only [evaluations] at hi ⊢
  induction order with
  | nil => exact absurd hi List.not_mem_nil
  | cons j order ih =>
      rcases List.mem_cons.1 hi with rfl | hi
      · simp [hr]
      · by_cases hij : i = j
        · subst hij
          simp [hr]
        · have hbeq : (i == j) = false := beq_false_of_ne hij
          cases hj : rules[j]? <;> simp [hj, List.lookup_cons, hbeq, ih hi]

theorem Schedule.mem_evaluations {s : Schedule} {rules : List Rule} {records : List ρ}
    {i : Nat} {r : Rule} (hi : i ∈ s.order) (hr : rules[i]? = some r) :
    (i, r.body? records) ∈ s.evaluations rules records :=
  List.mem_filterMap.2 ⟨i, hi, by rw [hr]; rfl⟩

/-- Without a fault, an admissible evaluation has the body of every rule at its place. -/
theorem Schedule.forall₂_of_bodies_eq_ok {s : Schedule} {rules : List Rule} {records : List ρ}
    {found : List (Option String)} (hs : s.Admissible rules records)
    (h : s.bodies rules records = .ok found) :
    List.Forall₂ (fun r body => r.body? records = .ok body) rules found := by
  rw [Schedule.bodies] at h
  split at h
  case h_2 => cases h
  case h_1 hnone =>
    cases h
    have hfine : ∀ p ∈ s.evaluations rules records, fault? p.2 = none :=
      List.filterMap_eq_nil_iff.1 hnone
    have hall : ∀ i < rules.length, i ∈ s.order := by
      rcases hs.complete with hall | ⟨p, hp, fault, hfault⟩
      · exact hall
      · have hpfine := hfine p hp
        rw [hfault] at hpfine
        cases hpfine
    refine List.forall₂_iff_get.2 ⟨by simp, fun i hi _ => ?_⟩
    have hr : rules[i]? = some rules[i] := List.getElem?_eq_getElem hi
    have hlookup : (s.evaluations rules records).lookup i = some (rules[i].body? records) :=
      Schedule.lookup_evaluations (hall i hi) hr
    have hibody := hfine _ (Schedule.mem_evaluations (hall i hi) hr)
    cases hbody : rules[i].body? records with
    | error fault =>
        rw [hbody] at hibody
        cases hibody
    | ok body =>
        rw [hbody] at hlookup
        simp [bodyAt, hlookup]

/-- A pass with a result has found the bodies of all rules. -/
theorem exists_bodies_of_routeWith {engine : Engine} {schedule : Schedule} {rules : List Rule}
    {records : List ρ} {groups : List Group} (hs : schedule.Admissible rules records)
    (h : (routeWith engine schedule rules records).result = .ok groups) :
    ∃ found, List.Forall₂ (fun r body => r.body? records = .ok body) rules found ∧
      routeWith engine schedule rules records = account rules (.ok found) := by
  have haccount : ∀ answers : Except ε (List (Option String)),
      (account rules answers).result = .ok groups → ∃ found, answers = .ok found := by
    intro answers hanswers
    cases answers with
    | error fault => cases hanswers
    | ok found => exact ⟨found, rfl⟩
  rw [routeWith] at h ⊢
  split at h
  case isTrue hparallel =>
    obtain ⟨found, hfound⟩ := haccount _ h
    exact ⟨found, Schedule.forall₂_of_bodies_eq_ok hs hfound, by rw [if_pos hparallel, hfound]⟩
  case isFalse hparallel =>
    obtain ⟨found, hfound⟩ := haccount _ h
    exact ⟨found, mapM_eq_ok_iff.1 hfound, by rw [if_neg hparallel, routeInOrder, hfound]⟩

/-! ### Accounts -/

/-- The answers of a pass, one beside each of its rules. -/
structure IsAccount (rules : List Rule) (records : List ρ)
    (pass : Logged ε (List Group)) (answers : List (Group ⊕ Notice)) : Prop where
  answered : List.Forall₂ (Rule.AnsweredBy records) rules answers
  groups : pass.result = .ok (answers.filterMap Sum.getLeft?)
  notices : pass.notices = answers.filterMap Sum.getRight?

theorem exists_isAccount {engine : Engine} {s : Schedule} {rules : List Rule} {records : List ρ}
    {groups : List Group} (hs : s.Admissible rules records)
    (h : (routeWith engine s rules records).result = .ok groups) :
    ∃ answers, IsAccount rules records (routeWith engine s rules records) answers := by
  obtain ⟨found, hfound, haccount⟩ := exists_bodies_of_routeWith hs h
  rw [account_ok] at haccount
  rw [haccount]
  exact ⟨_, answeredBy_zipWith_answer hfound, rfl, rfl⟩

/-! ### Every rule is answered -/

theorem severity_of_answeredBy {records : List ρ} {rules : List Rule}
    {answers : List (Group ⊕ Notice)}
    (h : List.Forall₂ (Rule.AnsweredBy records) rules answers) :
    ∀ notice ∈ answers.filterMap Sum.getRight?, notice.severity = .info := by
  induction h with
  | nil => exact fun _ hnotice => absurd hnotice List.not_mem_nil
  | cons hanswer _ ih =>
      cases hanswer with
      | group _ _ => exact ih
      | notice _ => exact List.forall_mem_cons.2 ⟨rfl, ih⟩

/-- A pass that succeeds answers every rule once, with a group or with a notice: `answers` stands
beside the rules, the groups are its groups in their order, and the notices its notices. -/
theorem route_answers_every_rule {engine : Engine} {rules : List Rule} {records : List ρ}
    {routed : Logged ε (List Group)} {groups : List Group}
    (hrouted : routed = route engine rules records ∨
      ∃ schedule : Schedule, schedule.Admissible rules records ∧
        routed = routeWith engine schedule rules records)
    (hresult : routed.result = .ok groups) :
    (∃ answers, List.Forall₂ (Rule.AnsweredBy records) rules answers ∧
      groups = answers.filterMap Sum.getLeft? ∧
      routed.notices = answers.filterMap Sum.getRight?) ∧
    (∀ notice ∈ routed.notices, notice.severity = .info) ∧
    ∀ (r : Rule) (record : ρ), r.accepts record = true ↔ r.Matches record := by
  have hschedule : ∃ schedule : Schedule, schedule.Admissible rules records ∧
      routed = routeWith engine schedule rules records := by
    rcases hrouted with hinOrder | hschedule
    · exact ⟨_, Schedule.admissible_inOrder rules records, hinOrder⟩
    · exact hschedule
  obtain ⟨schedule, hs, rfl⟩ := hschedule
  obtain ⟨found, hfound, haccount⟩ := exists_bodies_of_routeWith hs hresult
  have hanswers := answeredBy_zipWith_answer hfound
  rw [account_ok] at haccount
  rw [haccount] at hresult ⊢
  exact ⟨⟨_, hanswers, (Except.ok.inj hresult).symm, rfl⟩, severity_of_answeredBy hanswers,
    fun r _ => r.accepts_iff_matches⟩

/-- A rule for all records, one for none of those below, and one that leaves out the second. -/
def sampleRules : List Rule := [
  ⟨["ops@site"], ⟨["all"], []⟩, 1⟩,
  ⟨["web@site", "qa@site"], ⟨["web"], []⟩, 2⟩,
  ⟨["hw@site"], ⟨["disk", "fan"], ["noise"]⟩, 4⟩]

def sampleRecords : List LogRecord := [
  (LogRecord.new .epoch .err "disk full").withTag "disk",
  (LogRecord.new .epoch .warning "fan stopped").withTags ["fan", "noise"]]

def sampleGroups : List Group := [
  ⟨["ops@site"], "1970-01-01 00:00:00 +0000 (err): disk full\n"
    ++ "1970-01-01 00:00:00 +0000 (warning): fan stopped"⟩,
  ⟨["hw@site"], "1970-01-01 00:00:00 +0000 (err): disk full"⟩]

/-- The last rule is evaluated first, and the second one has nothing to report. -/
theorem route_answers_every_rule_out_of_order :
    let schedule : Schedule := ⟨[2, 0, 1], 0⟩
    let routed := routeWith .parallelAlways schedule sampleRules sampleRecords
    schedule.Admissible sampleRules sampleRecords ∧ routed.result = .ok sampleGroups ∧
      (∃ answers, List.Forall₂ (Rule.AnsweredBy sampleRecords) sampleRules answers ∧
        sampleGroups = answers.filterMap Sum.getLeft? ∧
        routed.notices = answers.filterMap Sum.getRight?) ∧
      (∀ notice ∈ routed.notices, notice.severity = .info) ∧
      ∀ (r : Rule) (record : LogRecord), r.accepts record = true ↔ r.Matches record := by
  have hs : Schedule.Admissible ⟨[2, 0, 1], 0⟩ sampleRules sampleRecords :=
    ⟨by decide, .inl (by decide)⟩
  have hresult : (routeWith .parallelAlways ⟨[2, 0, 1], 0⟩ sampleRules sampleRecords).result =
      .ok sampleGroups := by
    decide +kernel
  exact ⟨hs, hresult, route_answers_every_rule (.inr ⟨_, hs, rfl⟩) hresult⟩

end ReportRouting
