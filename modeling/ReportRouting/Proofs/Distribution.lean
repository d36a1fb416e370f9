import ReportRouting.Proofs.RenderFaults

/-!
Passes over more rules or more records.

A pass over the rules of two lists is two passes over the same records, one after the other. A pass
over the records of two lists gives each rule what it was given over the first list and, below it,
what it was given over the second. Only the faults do not follow the records: it is the order of the
rules that counts first, so the fault can be one of the second list although there is one in the
first list too.
-/

namespace ReportRouting

variable {ρ ε : Type} [Record ρ ε]

/-! ### More rules -/

theorem Engine.usesParallel_eq_false_of_le {e : Engine} {m n : Nat} (hle : m ≤ n)
    (h : e.usesParallel n = false) : e.usesParallel m = false := by
  simp only [usesParallel, Bool.and_eq_false_iff, decide_eq_false_iff_not] at h ⊢
  exact h.imp_right fun hn hm => hn (Nat.le_trans hm hle)

section

variable {rules rules₁ rules₂ : List Rule} {records : List ρ} {fault : ε}
  {groups groups₁ groups₂ : List Group}

theorem bodies_append (rules₁ rules₂ : List Rule) (records : List ρ) :
    bodies (rules₁ ++ rules₂) records = do
      let found₁ ← bodies rules₁ records
      let found₂ ← bodies rules₂ records
      return found₁ ++ found₂ :=
  List.mapM_append

theorem exists_bodies_of_routeInOrder (h : (routeInOrder rules records).result = .ok groups) :
    ∃ found, bodies rules records = .ok found ∧
      routeInOrder rules records = account rules (.ok found) := by
  cases hfound : bodies rules records with
  | ok found => exact ⟨found, rfl, by rw [routeInOrder, hfound]⟩
  | error fault =>
      rw [routeInOrder, hfound] at h
      cases h

theorem account_append {found₁ found₂ : List (Option String)}
    (hlength : rules₁.length = found₁.length)
    (h₁ : (account rules₁ (.ok found₁ : Except ε _)).result = .ok groups₁)
    (h₂ : (account rules₂ (.ok found₂ : Except ε _)).result = .ok groups₂) :
    account (rules₁ ++ rules₂) (.ok (found₁ ++ found₂) : Except ε _) =
      ⟨(account rules₁ (.ok found₁ : Except ε _)).notices ++
          (account rules₂ (.ok found₂ : Except ε _)).notices,
        .ok (groups₁ ++ groups₂)⟩ := by
  cases h₁
  cases h₂
  rw [account, List.zip_append hlength, List.filterMap_append, List.filterMap_append]
  rfl

theorem routeInOrder_append_of_error
    (h : (routeInOrder rules₁ records).result = .error fault) (rules₂ : List Rule) :
    routeInOrder (rules₁ ++ rules₂) records = ⟨[], .error fault⟩ := by
  rw [routeInOrder, account_result_eq_error_iff] at h
  rw [routeInOrder, bodies_append, h]
  rfl

theorem routeInOrder_append_of_ok_of_error
    (h₁ : (routeInOrder rules₁ records).result = .ok groups₁)
    (h₂ : (routeInOrder rules₂ records).result = .error fault) :
    routeInOrder (rules₁ ++ rules₂) records = ⟨[], .error fault⟩ := by
  obtain ⟨found₁, hfound₁, -⟩ := exists_bodies_of_routeInOrder h₁
  rw [routeInOrder, account_result_eq_error_iff] at h₂
  rw [routeInOrder, bodies_append, hfound₁, h₂]
  rfl

theorem routeInOrder_append_of_ok (h₁ : (routeInOrder rules₁ records).result = .ok groups₁)
    (h₂ : (routeInOrder rules₂ records).result = .ok groups₂) :
    routeInOrder (rules₁ ++ rules₂) records =
      ⟨(routeInOrder rules₁ records).notices ++ (routeInOrder rules₂ records).notices,
        .ok (groups₁ ++ groups₂)⟩ := by
  obtain ⟨found₁, hfound₁, hpass₁⟩ := exists_bodies_of_routeInOrder h₁
  obtain ⟨found₂, hfound₂, hpass₂⟩ := exists_bodies_of_routeInOrder h₂
  have hlength : rules₁.length = found₁.length := (mapM_eq_ok_iff.1 hfound₁).length_eq
  rw [hpass₁] at h₁ ⊢
  rw [hpass₂] at h₂ ⊢
  rw [routeInOrder, bodies_append, hfound₁, hfound₂]
  exact account_append hlength h₁ h₂

end

/-! ### More records -/

/-- A body with another one below it. A rule without a body adds nothing, not even a newline. -/
def joinBodies : Option String → Option String → Option String :=
  Option.merge fun body later => body ++ "\n" ++ later

/-- The answer to a rule over two lists of records, from its answers over each of them. -/
def joinAnswers : Group ⊕ Notice → Group ⊕ Notice → Group ⊕ Notice
  | .inl group, .inl later => .inl ⟨group.recipients, group.body ++ "\n" ++ later.body⟩
  | .inl group, .inr _ => .inl group
  | .inr _, answer => answer

theorem Rule.answer_joinBodies (r : Rule) (body later : Option String) :
    r.answer (joinBodies body later) = joinAnswers (r.answer body) (r.answer later) := by
  cases body <;> cases later <;> rfl

section

variable {r : Rule} {rules : List Rule} {records₁ records₂ : List ρ} {fault : ε}

theorem ne_nil_of_mapM_render {texts : List String} (hrecords : records₁ ≠ [])
    (h : records₁.mapM Record.render = .ok texts) : texts ≠ [] := by
  rintro rfl
  exact hrecords (List.forall₂_nil_right_iff.1 (mapM_eq_ok_iff.1 h))

theorem renderAll_append (h₁ : records₁ ≠ []) (h₂ : records₂ ≠ []) :
    renderAll (records₁ ++ records₂) = do
      let body₁ ← renderAll records₁
      let body₂ ← renderAll records₂
      return body₁ ++ "\n" ++ body₂ := by
  rw [renderAll, renderAll, renderAll, List.mapM_append]
  cases htexts₁ : records₁.mapM Record.render with
  | error fault => rfl
  | ok texts₁ =>
      cases htexts₂ : records₂.mapM Record.render with
      | error fault => rfl
      | ok texts₂ =>
          show Except.ok ("\n".intercalate (texts₁ ++ texts₂)) = .ok _
          rw [String.intercalate_append_of_ne_nil (ne_nil_of_mapM_render h₁ htexts₁)
            (ne_nil_of_mapM_render h₂ htexts₂)]

theorem Rule.selected_append (r : Rule) (records₁ records₂ : List ρ) :
    r.selected (records₁ ++ records₂) = r.selected records₁ ++ r.selected records₂ :=
  List.filter_append _ _

theorem Rule.body?_append (r : Rule) (records₁ records₂ : List ρ) :
    r.body? (records₁ ++ records₂) = do
      let body₁ ← r.body? records₁
      let body₂ ← r.body? records₂
      return joinBodies body₁ body₂ := by
  by_cases h₁ : r.selected records₁ = []
  · have hjoined : r.selected (records₁ ++ records₂) = r.selected records₂ := by
      rw [selected_append, h₁, List.nil_append]
    have hbody : r.body? (records₁ ++ records₂) = r.body? records₂ := by
      rw [body?, hjoined, body?]
    rw [hbody, body?_of_selected_eq_nil h₁]
    rcases r.body? records₂ with fault | _ | body <;> rfl
  · by_cases h₂ : r.selected records₂ = []
    · have hjoined : r.selected (records₁ ++ records₂) = r.selected records₁ := by
        rw [selected_append, h₂, List.append_nil]
      have hbody : r.body? (records₁ ++ records₂) = r.body? records₁ := by
        rw [body?, hjoined, body?]
      rw [hbody, body?_of_selected_eq_nil h₂]
      rcases r.body? records₁ with fault | _ | body <;> rfl
    · have hjoined : r.selected (records₁ ++ records₂) ≠ [] := by
        rw [selected_append]
        exact List.append_ne_nil_of_left_ne_nil h₁ _
      rw [body?_of_selected_ne_nil hjoined, selected_append, renderAll_append h₁ h₂,
        body?_of_selected_ne_nil h₁, body?_of_selected_ne_nil h₂]
      rcases renderAll (r.selected records₁) with fault | body₁
      · rfl
      · rcases renderAll (r.selected records₂) with fault | body₂ <;> rfl

theorem Rule.fails_append_iff :
    r.Fails (records₁ ++ records₂) ↔ r.Fails records₁ ∨ r.Fails records₂ := by
  simp only [Rule.Fails, List.mem_append, or_and_right, exists_or]

theorem Rule.hasFirstFault_append_iff :
    r.HasFirstFault (records₁ ++ records₂) fault ↔
      r.HasFirstFault records₁ fault ∨ ¬r.Fails records₁ ∧ r.HasFirstFault records₂ fault := by
  have hlater : ∀ body₁, (do let body₂ ← r.body? records₂; return joinBodies body₁ body₂) =
      .error fault ↔ r.body? records₂ = .error fault := by
    intro body₁
    rw [bind_eq_error_iff, or_iff_left]
    rintro ⟨_, _, h⟩
    cases h
  rw [← body?_eq_error_iff, ← body?_eq_error_iff, ← body?_eq_error_iff, ← exists_body?_eq_ok_iff,
    body?_append, bind_eq_error_iff]
  simp only [hlater, exists_and_right]

/-! ### Passes over more records -/

theorem isAccount_routeInOrder {records : List ρ} {found : List (Option String)}
    (h : List.Forall₂ (fun r body => r.body? records = .ok body) rules found) :
    IsAccount rules records (routeInOrder rules records)
      (List.zipWith Rule.answer rules found) := by
  rw [routeInOrder, bodies, mapM_eq_ok_iff.2 h, account_ok]
  exact ⟨answeredBy_zipWith_answer h, rfl, rfl⟩

theorem forall₂_joinBodies {found₁ found₂ : List (Option String)}
    (h₁ : List.Forall₂ (fun r body => r.body? records₁ = .ok body) rules found₁)
    (h₂ : List.Forall₂ (fun r body => r.body? records₂ = .ok body) rules found₂) :
    List.Forall₂ (fun r body => r.body? (records₁ ++ records₂) = .ok body) rules
        (List.zipWith joinBodies found₁ found₂) ∧
      List.zipWith Rule.answer rules (List.zipWith joinBodies found₁ found₂) =
        List.zipWith joinAnswers (List.zipWith Rule.answer rules found₁)
          (List.zipWith Rule.answer rules found₂) := by
  induction h₁ generalizing found₂ with
  | nil => exact ⟨.nil, rfl⟩
  | @cons r body₁ rules found₁ hbody₁ _ ih =>
      obtain ⟨body₂, found₂, hbody₂, hlater₂, rfl⟩ := List.forall₂_cons_left_iff.1 h₂
      obtain ⟨hlater, hanswers⟩ := ih hlater₂
      have hbody : r.body? (records₁ ++ records₂) = .ok (joinBodies body₁ body₂) := by
        rw [Rule.body?_append, hbody₁, hbody₂]
        rfl
      refine ⟨.cons hbody hlater, ?_⟩
      simp only [List.zipWith_cons_cons, hanswers, Rule.answer_joinBodies]

/-- Where both passes succeed, the pass over all records has their answers joined. -/
theorem exists_isAccount_append {groups₁ groups₂ : List Group}
    (h₁ : (routeInOrder rules records₁).result = .ok groups₁)
    (h₂ : (routeInOrder rules records₂).result = .ok groups₂) :
    ∃ answers₁ answers₂, IsAccount rules records₁ (routeInOrder rules records₁) answers₁ ∧
      IsAccount rules records₂ (routeInOrder rules records₂) answers₂ ∧
      IsAccount rules (records₁ ++ records₂) (routeInOrder rules (records₁ ++ records₂))
        (List.zipWith joinAnswers answers₁ answers₂) := by
  obtain ⟨found₁, hfound₁, -⟩ := exists_bodies_of_routeInOrder h₁
  obtain ⟨found₂, hfound₂, -⟩ := exists_bodies_of_routeInOrder h₂
  have hbodies₁ := mapM_eq_ok_iff.1 hfound₁
  have hbodies₂ := mapM_eq_ok_iff.1 hfound₂
  obtain ⟨hbodies, hanswers⟩ := forall₂_joinBodies hbodies₁ hbodies₂
  exact ⟨_, _, isAccount_routeInOrder hbodies₁, isAccount_routeInOrder hbodies₂,
    hanswers ▸ isAccount_routeInOrder hbodies⟩

theorem routeInOrder_append_eq_error_iff :
    routeInOrder rules (records₁ ++ records₂) = ⟨[], .error fault⟩ ↔
      ∃ before r after, rules = before ++ r :: after ∧
        (∀ earlier ∈ before, ¬earlier.Fails records₁ ∧ ¬earlier.Fails records₂) ∧
        (r.HasFirstFault records₁ fault ∨
          ¬r.Fails records₁ ∧ r.HasFirstFault records₂ fault) := by
  have hresult : routeInOrder rules (records₁ ++ records₂) = ⟨[], .error fault⟩ ↔
      (routeInOrder rules (records₁ ++ records₂)).result = .error fault :=
    ⟨fun h => h ▸ rfl, account_of_result_eq_error⟩
  rw [hresult, routeInOrder_result_eq_error_iff, IsFirstFault]
  simp only [Rule.fails_append_iff, not_or, Rule.hasFirstFault_append_iff]

end

theorem exists_routeInOrder_append_eq_ok_iff {rules : List Rule} {records₁ records₂ : List ρ} :
    (∃ groups, (routeInOrder rules (records₁ ++ records₂)).result = .ok groups) ↔
      (∃ groups, (routeInOrder rules records₁).result = .ok groups) ∧
        ∃ groups, (routeInOrder rules records₂).result = .ok groups := by
  simp only [exists_routeInOrder_result_eq_ok_iff, Rule.fails_append_iff, not_or, forall_and]

/-! ### Both together -/

/-- The first rule asks only for the later of two logs without a message, the second rule only for
the earlier one. -/
theorem fault_of_later_logs :
    let rules : List Rule := [⟨["hw@site"], ⟨["disk"], []⟩, 1⟩, ⟨["ops@site"], ⟨["fan"], []⟩, 2⟩]
    let later : Instant := ⟨⟨2024, 3, 1, by decide⟩, ⟨12, 30, 0, 0, by decide⟩⟩
    let logs₁ : List LogRecord := [(LogRecord.new .epoch .err " ").withTag "fan"]
    let logs₂ : List LogRecord := [(LogRecord.new later .err "").withTag "disk"]
    (route .default rules logs₁).result = .error (.noMessage .epoch) ∧
    (route .default rules logs₂).result = .error (.noMessage later) ∧
    (route .default rules (logs₁ ++ logs₂)).result = .error (.noMessage later) ∧
    RenderFault.noMessage .epoch ≠ .noMessage later := by
  decide +kernel

/-- A pass over the rules of two lists, one after the other, is two passes: the fault of the first
counts, then that of the second, and without a fault it has the groups and the notices of both. A
pass over the records of two lists succeeds if both passes do, and then it joins their answers to
every rule. Otherwise it is the first rule to fail on either list that is to blame, with its fault
on the first list, if it has one there. So it can be a fault of the second list that counts,
although the pass over the first list has another one. -/
theorem routing_distributes (engine : Engine) :
    (∀ (rules₁ rules₂ : List Rule) (records : List ρ),
      engine.usesParallel (rules₁ ++ rules₂).length = false →
      let pass₁ := route engine rules₁ records
      let pass₂ := route engine rules₂ records
      let pass := route engine (rules₁ ++ rules₂) records
      (∀ fault, pass₁.result = .error fault → pass = ⟨[], .error fault⟩) ∧
      ∀ groups₁, pass₁.result = .ok groups₁ →
        (∀ fault, pass₂.result = .error fault → pass = ⟨[], .error fault⟩) ∧
        ∀ groups₂, pass₂.result = .ok groups₂ →
          pass = ⟨pass₁.notices ++ pass₂.notices, .ok (groups₁ ++ groups₂)⟩) ∧
    (∀ (rules : List Rule) (records₁ records₂ : List ρ),
      engine.usesParallel rules.length = false →
      let pass₁ := route engine rules records₁
      let pass₂ := route engine rules records₂
      let pass := route engine rules (records₁ ++ records₂)
      ((∃ groups, pass.result = .ok groups) ↔
        (∃ groups, pass₁.result = .ok groups) ∧ ∃ groups, pass₂.result = .ok groups) ∧
      (∀ groups, pass.result = .ok groups → ∃ answers₁ answers₂,
        IsAccount rules records₁ pass₁ answers₁ ∧ IsAccount rules records₂ pass₂ answers₂ ∧
        IsAccount rules (records₁ ++ records₂) pass
          (List.zipWith joinAnswers answers₁ answers₂)) ∧
      ∀ fault, pass = ⟨[], .error fault⟩ ↔ ∃ before r after, rules = before ++ r :: after ∧
        (∀ earlier ∈ before, ¬earlier.Fails records₁ ∧ ¬earlier.Fails records₂) ∧
        (r.HasFirstFault records₁ fault ∨
          ¬r.Fails records₁ ∧ r.HasFirstFault records₂ fault)) ∧
    ∃ (rules : List Rule) (logs₁ logs₂ : List LogRecord) (fault₁ fault₂ : RenderFault),
      (route .default rules logs₁).result = .error fault₁ ∧
      (route .default rules logs₂).result = .error fault₂ ∧
      (route .default rules (logs₁ ++ logs₂)).result = .error fault₂ ∧ fault₁ ≠ fault₂ := by
  refine ⟨?_, ?_, _, _, _, _, _, fault_of_later_logs⟩
  · intro rules₁ rules₂ records hsequential
    have hparts : engine.usesParallel rules₁.length = false ∧
        engine.usesParallel rules₂.length = false := by
      rw [List.length_append] at hsequential
      exact ⟨Engine.usesParallel_eq_false_of_le (Nat.le_add_right _ _) hsequential,
        Engine.usesParallel_eq_false_of_le (Nat.le_add_left _ _) hsequential⟩
    rw [route_of_not_parallel hsequential, route_of_not_parallel hparts.1,
      route_of_not_parallel hparts.2]
    exact ⟨fun _ h => routeInOrder_append_of_error h rules₂, fun _ h₁ =>
      ⟨fun _ => routeInOrder_append_of_ok_of_error h₁, fun _ => routeInOrder_append_of_ok h₁⟩⟩
  · intro rules records₁ records₂ hsequential
    simp only [route_of_not_parallel hsequential]
    refine ⟨exists_routeInOrder_append_eq_ok_iff, ?_, fun _ => routeInOrder_append_eq_error_iff⟩
    intro groups hgroups
    obtain ⟨⟨_, h₁⟩, _, h₂⟩ := exists_routeInOrder_append_eq_ok_iff.1 ⟨groups, hgroups⟩
    exact exists_isAccount_append h₁ h₂

/-- The engine would evaluate five rules at a time, but there are four. The last rule has no record,
and of the others one has records in both lists and two in one of them. -/
theorem routing_distributes_of_sample :
    let engine : Engine := ⟨true, 5⟩
    let rules : List Rule := sampleRules ++ [⟨["dev@site"], ⟨["cron"], []⟩, 5⟩]
    let later : List LogRecord := [(LogRecord.new .epoch .info "web is up").withTag "web"]
    engine.usesParallel rules.length = false ∧
    route engine rules sampleRecords =
      ⟨[.noMessages "web@site,qa@site" 2] ++ [.noMessages "dev@site" 5], .ok (sampleGroups ++ [])⟩ ∧
    (∃ groups, (route engine rules (sampleRecords ++ later)).result = .ok groups) ∧
    ∃ answers₁ answers₂, IsAccount rules sampleRecords (route engine rules sampleRecords) answers₁ ∧
      IsAccount rules later (route engine rules later) answers₂ ∧
      IsAccount rules (sampleRecords ++ later) (route engine rules (sampleRecords ++ later))
        (List.zipWith joinAnswers answers₁ answers₂) := by
  intro engine rules later
  have hsequential : engine.usesParallel rules.length = false := by decide
  obtain ⟨hrules, hrecords, -⟩ := routing_distributes (ρ := LogRecord) engine
  obtain ⟨-, hpass⟩ := hrules sampleRules (rules.drop 3) sampleRecords hsequential
  obtain ⟨hok, hanswers, -⟩ := hrecords rules sampleRecords later hsequential
  have hnotices₁ : (route engine sampleRules sampleRecords).notices =
      [.noMessages "web@site,qa@site" 2] := by decide +kernel
  have hnotices₂ : (route engine (rules.drop 3) sampleRecords).notices =
      [.noMessages "dev@site" 5] := by decide +kernel
  have hpasses := (hpass sampleGroups (by decide +kernel)).2 [] (by decide +kernel)
  rw [hnotices₁, hnotices₂] at hpasses
  have hlater : (route engine rules later).result = .ok [
      ⟨["ops@site"], "1970-01-01 00:00:00 +0000 (info): web is up"⟩,
      ⟨["web@site", "qa@site"], "1970-01-01 00:00:00 +0000 (info): web is up"⟩] := by
    decide +kernel
  obtain ⟨groups, hgroups⟩ := hok.2 ⟨⟨sampleGroups, by decide +kernel⟩, _, hlater⟩
  exact ⟨hsequential, hpasses, ⟨groups, hgroups⟩, hanswers groups hgroups⟩

end ReportRouting
