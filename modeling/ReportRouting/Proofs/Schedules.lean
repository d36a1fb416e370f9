import ReportRouting.Proofs.RenderFaults

/-!
Rules at work at the same time.

Which rules come to their end, in which order, and which fault is reported, is up to a schedule.
If no rule fails, nothing of this is seen: the bodies are those of one rule after the other. If
some rule fails, every schedule fails, since rules are left out only behind a fault; the fault is
the first one of some rule, and every rule that fails has a schedule that reports it.
-/

namespace ReportRouting

variable {ρ ε : Type} [Record ρ ε]

/-! ### Evaluations -/

namespace Schedule

variable {s : Schedule} {rules : List Rule} {records : List ρ}

theorem exists_of_mem_evaluations {p : Nat × Except ε (Option String)}
    (h : p ∈ s.evaluations rules records) : ∃ r ∈ rules, r.body? records = p.2 := by
  obtain ⟨i, -, hi⟩ := List.mem_filterMap.1 h
  obtain ⟨r, hr, rfl⟩ := Option.map_eq_some_iff.1 hi
  exact ⟨r, List.mem_of_getElem? hr, rfl⟩

theorem fault?_eq_some_iff {answer : Except ε (Option String)} {fault : ε} :
    fault? answer = some fault ↔ answer = .error fault := by
  cases answer with
  | error fault' => exact ⟨fun h => by cases h; rfl, fun h => by cases h; rfl⟩
  | ok body => exact ⟨nofun, nofun⟩

theorem exists_of_mem_faults {fault : ε}
    (h : fault ∈ (s.evaluations rules records).filterMap fun p => fault? p.2) :
    ∃ r ∈ rules, r.body? records = .error fault := by
  obtain ⟨p, hp, hfault⟩ := List.mem_filterMap.1 h
  obtain ⟨r, hr, hbody⟩ := exists_of_mem_evaluations hp
  exact ⟨r, hr, hbody.trans (fault?_eq_some_iff.1 hfault)⟩

/-- A fault that is reported is the fault of some rule. -/
theorem exists_of_bodies_eq_error {fault : ε}
    (h : s.bodies rules records = .error fault) : ∃ r ∈ rules, r.body? records = .error fault := by
  rw [Schedule.bodies] at h
  split at h
  case h_1 => cases h
  case h_2 first faults hfaults =>
    apply exists_of_mem_faults (s := s)
    rw [hfaults, ← Except.error.inj h, List.getD_eq_getElem?_getD]
    have hlt : s.blame % (faults.length + 1) < (first :: faults).length :=
      Nat.mod_lt _ (Nat.succ_pos _)
    rw [List.getElem?_eq_getElem hlt]
    exact List.getElem_mem hlt

/-- Without a fault of any rule, the bodies are found whatever the order. -/
theorem bodies_of_forall₂ {found : List (Option String)} (hs : s.Admissible rules records)
    (h : List.Forall₂ (fun r body => r.body? records = .ok body) rules found) :
    s.bodies rules records = .ok found := by
  cases hbodies : s.bodies rules records with
  | error fault =>
      obtain ⟨r, hr, hfault⟩ := exists_of_bodies_eq_error hbodies
      obtain ⟨body, hbody⟩ := exists_mapM_eq_ok_iff.1 ⟨found, mapM_eq_ok_iff.2 h⟩ r hr
      rw [hfault] at hbody
      cases hbody
  | ok found' =>
      have hfound := mapM_eq_ok_iff.2 (forall₂_of_bodies_eq_ok hs hbodies)
      rw [mapM_eq_ok_iff.2 h] at hfound
      exact hfound.symm

/-- Every fault of a rule is reported by some schedule: the rule is evaluated, and no other. -/
theorem exists_bodies_eq_error {r : Rule} {fault : ε} (hr : r ∈ rules)
    (h : r.body? records = .error fault) :
    ∃ s : Schedule, s.Admissible rules records ∧ s.bodies rules records = .error fault := by
  obtain ⟨i, hi⟩ := List.mem_iff_getElem?.1 hr
  have hevaluations : (Schedule.mk [i] 0).evaluations rules records = [(i, .error fault)] := by
    simp [evaluations, hi, h]
  refine ⟨⟨[i], 0⟩, ⟨by simp, .inr ⟨_, hevaluations ▸ List.mem_singleton_self _,
    fault, rfl⟩⟩, ?_⟩
  rw [Schedule.bodies, hevaluations]
  rfl

/-- Records that are alike for the rules leave nothing to tell two evaluations apart by. -/
theorem evaluations_of_alike {ρ' : Type} [Record ρ' ε] {others : List ρ'}
    (h : List.Forall₂ (AlikeFor rules) records others) (s : Schedule) :
    s.evaluations rules records = s.evaluations rules others := by
  rw [evaluations, evaluations]
  refine List.filterMap_congr fun i _ => Option.map_congr fun r hr => ?_
  rw [Rule.body?_of_alike h (List.mem_of_getElem? hr)]

theorem admissible_of_alike {ρ' : Type} [Record ρ' ε] {others : List ρ'}
    (h : List.Forall₂ (AlikeFor rules) records others) (s : Schedule) :
    s.Admissible rules records ↔ s.Admissible rules others := by
  have heq := evaluations_of_alike h s
  exact ⟨fun hs => ⟨hs.nodup, heq ▸ hs.complete⟩, fun hs => ⟨hs.nodup, heq.symm ▸ hs.complete⟩⟩

end Schedule

/-! ### Passes -/

theorem routeWith_of_alike {ρ' : Type} [Record ρ' ε] {engine : Engine} {s : Schedule}
    {rules : List Rule} {records : List ρ} {others : List ρ'}
    (h : List.Forall₂ (AlikeFor rules) records others) :
    routeWith engine s rules records = routeWith engine s rules others := by
  rw [routeWith, routeWith, routeInOrder_of_alike h, Schedule.bodies, Schedule.bodies,
    Schedule.evaluations_of_alike h]

section

variable {engine : Engine} {s : Schedule} {rules : List Rule} {records : List ρ}

theorem routeWith_of_no_rule_fails (hs : s.Admissible rules records)
    (h : ∀ r ∈ rules, ¬r.Fails records) :
    routeWith engine s rules records = routeInOrder rules records := by
  obtain ⟨found, hfound⟩ :=
    exists_mapM_eq_ok_iff.2 fun r hr => Rule.exists_body?_eq_ok_iff.2 (h r hr)
  rw [routeWith]
  split
  · rw [Schedule.bodies_of_forall₂ hs (mapM_eq_ok_iff.1 hfound), routeInOrder, bodies, hfound]
  · rfl

theorem exists_ok_routeWith_iff (hs : s.Admissible rules records) :
    (∃ groups, (routeWith engine s rules records).result = .ok groups) ↔
      ∀ r ∈ rules, ¬r.Fails records := by
  constructor
  · rintro ⟨groups, hgroups⟩ r hr
    obtain ⟨found, hfound, _⟩ := exists_bodies_of_routeWith hs hgroups
    have hbody := exists_mapM_eq_ok_iff.1 ⟨found, mapM_eq_ok_iff.2 hfound⟩ r hr
    exact Rule.exists_body?_eq_ok_iff.1 hbody
  · intro hfine
    rw [routeWith_of_no_rule_fails hs hfine]
    exact exists_routeInOrder_result_eq_ok_iff.2 hfine

/-- A pass that fails gives nothing, and its fault is the first one of a rule. -/
theorem routeWith_of_result_eq_error {fault : ε}
    (h : (routeWith engine s rules records).result = .error fault) :
    routeWith engine s rules records = ⟨[], .error fault⟩ ∧
      ∃ r ∈ rules, r.HasFirstFault records fault := by
  rw [routeWith] at h ⊢
  split at h
  case isTrue hparallel =>
    rw [if_pos hparallel]
    obtain ⟨r, hr, hfault⟩ :=
      Schedule.exists_of_bodies_eq_error (account_result_eq_error_iff.1 h)
    exact ⟨account_of_result_eq_error h, r, hr, Rule.body?_eq_error_iff.1 hfault⟩
  case isFalse hparallel =>
    rw [if_neg hparallel]
    obtain ⟨before, r, after, rfl, _, hr⟩ := routeInOrder_result_eq_error_iff.1 h
    exact ⟨account_of_result_eq_error h, r, List.mem_append_right before List.mem_cons_self, hr⟩

end

theorem Rule.HasFirstFault.fails {r : Rule} {records : List ρ} {fault : ε}
    (h : r.HasFirstFault records fault) : r.Fails records :=
  Rule.exists_body?_eq_error_iff.1 ⟨fault, Rule.body?_eq_error_iff.2 h⟩

theorem Rule.HasFirstFault.unique {r : Rule} {records : List ρ} {fault fault' : ε}
    (h : r.HasFirstFault records fault) (h' : r.HasFirstFault records fault') : fault = fault' := by
  have hbody := Rule.body?_eq_error_iff.2 h
  rw [Rule.body?_eq_error_iff.2 h'] at hbody
  exact (Except.error.inj hbody).symm

/-- Two passes over the same rules and records, each of them with several rules at a time or with
one after the other, both succeed, with the same groups and notices, or both fail. Then neither
gives a notice, and each has the first fault of some rule; if there is but one rule that fails,
they have the same. -/
theorem routeWith_independent_of_schedule (engine engine' : Engine) {s s' : Schedule}
    {rules : List Rule} {records : List ρ}
    (hs : s.Admissible rules records) (hs' : s'.Admissible rules records) :
    let pass := routeWith engine s rules records
    let pass' := routeWith engine' s' rules records
    ((∃ groups, pass.result = .ok groups) ↔ ∃ groups, pass'.result = .ok groups) ∧
    (∀ groups, pass.result = .ok groups →
      pass'.result = .ok groups ∧ pass'.notices = pass.notices) ∧
    ∀ fault, pass.result = .error fault →
      pass.notices = [] ∧ (∃ r ∈ rules, r.HasFirstFault records fault) ∧
      ((∃ before r after, rules = before ++ r :: after ∧
          ∀ other ∈ before ++ after, ¬other.Fails records) →
        pass'.result = .error fault) := by
  intro pass pass'
  have hsame : (∃ groups, pass.result = .ok groups) ↔ ∃ groups, pass'.result = .ok groups :=
    (exists_ok_routeWith_iff hs).trans (exists_ok_routeWith_iff hs').symm
  refine ⟨hsame, fun groups hgroups => ?_, fun fault hfault => ?_⟩
  · have hfine := (exists_ok_routeWith_iff hs).1 ⟨groups, hgroups⟩
    have hpass : pass' = pass :=
      (routeWith_of_no_rule_fails hs' hfine).trans (routeWith_of_no_rule_fails hs hfine).symm
    exact ⟨hpass ▸ hgroups, congrArg Logged.notices hpass⟩
  · obtain ⟨hpass, r, hr, hfirst⟩ := routeWith_of_result_eq_error hfault
    refine ⟨congrArg Logged.notices hpass, ⟨r, hr, hfirst⟩, ?_⟩
    rintro ⟨before, only, after, rfl, hothers⟩
    have honly : ∀ r ∈ before ++ only :: after, r.Fails records → r = only := by
      intro r hr hfails
      by_contra hne
      have hother : r ∈ before ++ after := by
        rcases List.mem_append.1 hr with hr | hr
        · exact List.mem_append_left after hr
        · exact List.mem_append_right before (List.mem_of_ne_of_mem hne hr)
      exact hothers r hother hfails
    cases hresult : pass'.result with
    | ok groups =>
        -- The other pass cannot succeed where this one has failed.
        obtain ⟨groups', hgroups'⟩ := hsame.2 ⟨groups, hresult⟩
        cases hfault.symm.trans hgroups'
    | error fault' =>
        obtain ⟨_, r', hr', hfirst'⟩ := routeWith_of_result_eq_error hresult
        rw [honly r hr hfirst.fails] at hfirst
        rw [honly r' hr' hfirst'.fails] at hfirst'
        rw [hfirst'.unique hfirst]

/-- The last rule is the only one that fails. Here it is evaluated first, and the others are left
out. -/
theorem routeWith_independent_of_schedule_left_out :
    let rules := sampleRules.reverse
    let pass := routeWith .parallelAlways ⟨[2], 5⟩ rules spoiltRecords
    Schedule.Admissible ⟨[2], 5⟩ rules spoiltRecords ∧
    (Schedule.inOrder 3).Admissible rules spoiltRecords ∧
    (∀ other ∈ rules.take 2, ¬other.Fails spoiltRecords) ∧
    pass.result = .error (.noMessage .epoch) ∧ pass.notices = [] ∧
    (routeWith .sequentialAlways (.inOrder 3) rules spoiltRecords).result =
      .error (.noMessage .epoch) := by
  have hs : Schedule.Admissible ⟨[2], 5⟩ sampleRules.reverse spoiltRecords :=
    ⟨by decide, .inr ⟨(2, .error (.noMessage .epoch)), by decide +kernel, _, rfl⟩⟩
  have hs' := Schedule.admissible_inOrder sampleRules.reverse spoiltRecords
  have hothers : ∀ other ∈ sampleRules.reverse.take 2, ¬other.Fails spoiltRecords := by
    decide +kernel
  have hresult : (routeWith .parallelAlways ⟨[2], 5⟩ sampleRules.reverse spoiltRecords).result =
      .error (.noMessage .epoch) := by
    decide +kernel
  obtain ⟨_, _, hfails⟩ :=
    routeWith_independent_of_schedule .parallelAlways .sequentialAlways hs hs'
  obtain ⟨hnotices, _, hsequential⟩ := hfails _ hresult
  exact ⟨hs, hs', hothers, hresult, hnotices,
    hsequential ⟨sampleRules.reverse.take 2, _, [], rfl, by simpa using hothers⟩⟩

end ReportRouting
