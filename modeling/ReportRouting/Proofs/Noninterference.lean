import Mathlib.Logic.Relation
import ReportRouting.Proofs.Routing

/-!
What recipients are sent depends on their rule and on the records it asks for.

Of some records a rule sees the texts of those it asks for. Any other record may come, go, change
or move without being noticed. A pass gives its rules one answer each, and the answer to a rule is
a function of what the rule sees: whichever rules stand around it in two passes, and whatever else
is among the records, it is given the same in both if it sees the same in both.
-/

namespace ReportRouting

variable {ρ ρ' ε : Type} [Record ρ ε] [Record ρ' ε]

/-! ### What a rule sees -/

def Rule.view (r : Rule) (records : List ρ) : List (Except ε String) :=
  (records.filter (r.Matches ·)).map Record.render

/-- One change to the records that a rule does not ask for. Two records may change places if the
rule asks for one of them at most. -/
inductive Rule.UnseenEdit (r : Rule) : List ρ → List ρ → Prop
  | insert {record : ρ} (before after : List ρ) (unseen : ¬r.Matches record) :
      UnseenEdit r (before ++ after) (before ++ record :: after)
  | remove {record : ρ} (before after : List ρ) (unseen : ¬r.Matches record) :
      UnseenEdit r (before ++ record :: after) (before ++ after)
  | rewrite {record other : ρ} (before after : List ρ) (unseen : ¬r.Matches record)
      (unseen' : ¬r.Matches other) :
      UnseenEdit r (before ++ record :: after) (before ++ other :: after)
  | swap {record other : ρ} (before after : List ρ)
      (unseen : ¬r.Matches record ∨ ¬r.Matches other) :
      UnseenEdit r (before ++ record :: other :: after) (before ++ other :: record :: after)

section

variable {r : Rule} {records edited : List ρ}

theorem Rule.view_append (r : Rule) (before after : List ρ) :
    r.view (before ++ after) = r.view before ++ r.view after := by
  rw [view, List.filter_append, List.map_append, view, view]

theorem Rule.view_cons_of_not_matches {record : ρ} (h : ¬r.Matches record) (records : List ρ) :
    r.view (record :: records) = r.view records := by
  rw [view, List.filter_cons_of_neg (by simpa using h), view]

theorem Rule.view_of_unseenEdit (h : r.UnseenEdit records edited) :
    r.view edited = r.view records := by
  cases h with
  | insert before after unseen =>
      rw [view_append, view_append, view_cons_of_not_matches unseen]
  | remove before after unseen =>
      rw [view_append, view_append, view_cons_of_not_matches unseen]
  | rewrite before after unseen unseen' =>
      rw [view_append, view_append, view_cons_of_not_matches unseen,
        view_cons_of_not_matches unseen']
  | @swap record other before after unseen =>
      have hpair : r.view [other, record] = r.view [record, other] := by
        cases unseen with
        | inl h =>
            rw [view_cons_of_not_matches h, ← List.singleton_append, view_append,
              view_cons_of_not_matches h]
            exact List.append_nil _
        | inr h =>
            rw [view_cons_of_not_matches h, ← List.singleton_append (l := [other]), view_append,
              view_cons_of_not_matches h]
            exact (List.append_nil _).symm
      show r.view (before ++ ([other, record] ++ after)) =
        r.view (before ++ ([record, other] ++ after))
      rw [view_append, view_append, view_append, view_append, hpair]

/-- However often records are changed, a rule that asks for none of them sees nothing of it. -/
theorem Rule.view_of_unseenEdits (h : Relation.ReflTransGen r.UnseenEdit records edited) :
    r.view edited = r.view records := by
  induction h with
  | refl => rfl
  | tail _ hedit ih => rw [view_of_unseenEdit hedit, ih]

end

/-! ### Answers -/

theorem map_render_eq_of_forall₂ {records : List ρ} {texts : List String}
    (h : List.Forall₂ (fun record text => Record.render record = .ok text) records texts) :
    records.map Record.render = texts.map .ok := by
  induction h with
  | nil => rfl
  | cons htext _ ih => rw [List.map_cons, List.map_cons, htext, ih]

theorem Rule.view_ne_nil {r : Rule} {records : List ρ} (h : ∃ record ∈ records, r.Matches record) :
    r.view records ≠ [] := by
  obtain ⟨record, hmem, hmatches⟩ := h
  have hkept : record ∈ records.filter (r.Matches ·) :=
    List.mem_filter.2 ⟨hmem, decide_eq_true hmatches⟩
  exact List.ne_nil_of_mem (List.mem_map_of_mem hkept)

theorem Rule.view_eq_nil {r : Rule} {records : List ρ} (h : ∀ record ∈ records, ¬r.Matches record) :
    r.view records = [] := by
  rw [view, List.map_eq_nil_iff, List.filter_eq_nil_iff]
  simpa using h

/-- An answer is settled by what the rule sees. -/
theorem Rule.AnsweredBy.eq_of_view_eq {r : Rule} {records : List ρ} {others : List ρ'}
    {answer answer' : Group ⊕ Notice} (h : r.AnsweredBy records answer)
    (h' : r.AnsweredBy others answer') (hview : r.view records = r.view others) :
    answer = answer' := by
  cases h with
  | @group texts some_match rendered =>
      cases h' with
      | @group texts' some_match' rendered' =>
          have htexts : texts.map (Except.ok (ε := ε)) = texts'.map .ok := by
            rw [← map_render_eq_of_forall₂ rendered, ← map_render_eq_of_forall₂ rendered']
            exact hview
          rw [List.map_injective_iff.2 (fun _ _ => Except.ok.inj) htexts]
      | notice no_match =>
          exact absurd (hview.trans (Rule.view_eq_nil no_match)) (Rule.view_ne_nil some_match)
  | notice no_match =>
      cases h' with
      | group some_match' rendered' =>
          exact absurd (hview.symm.trans (Rule.view_eq_nil no_match))
            (Rule.view_ne_nil some_match')
      | notice no_match' => rfl

/-! ### Passes -/

theorem IsAccount.answeredBy {rules : List Rule} {records : List ρ}
    {pass : Logged ε (List Group)} {answers : List (Group ⊕ Notice)}
    (h : IsAccount rules records pass answers) {i : Nat} {r : Rule} (hr : rules[i]? = some r) :
    ∃ answer, answers[i]? = some answer ∧ r.AnsweredBy records answer := by
  obtain ⟨hi, rfl⟩ := List.getElem?_eq_some_iff.1 hr
  obtain ⟨hlength, hanswered⟩ := List.forall₂_iff_get.1 h.answered
  have hi' : i < answers.length := hlength ▸ hi
  exact ⟨answers[i], List.getElem?_eq_getElem hi', hanswered i hi hi'⟩

theorem IsAccount.getElem?_eq {rules rules' : List Rule} {records : List ρ} {others : List ρ'}
    {pass pass' : Logged ε (List Group)} {answers answers' : List (Group ⊕ Notice)}
    (h : IsAccount rules records pass answers) (h' : IsAccount rules' others pass' answers')
    {i j : Nat} {r : Rule} (hi : rules[i]? = some r) (hj : rules'[j]? = some r)
    (hview : r.view records = r.view others) : answers[i]? = answers'[j]? := by
  obtain ⟨answer, hanswer, hanswered⟩ := h.answeredBy hi
  obtain ⟨answer', hanswer', hanswered'⟩ := h'.answeredBy hj
  rw [hanswer, hanswer', hanswered.eq_of_view_eq hanswered' hview]

/-- A pass has but one account. -/
theorem IsAccount.unique {rules : List Rule} {records : List ρ}
    {pass : Logged ε (List Group)} {answers answers' : List (Group ⊕ Notice)}
    (h : IsAccount rules records pass answers) (h' : IsAccount rules records pass answers') :
    answers' = answers := by
  apply List.ext_getElem?
  intro i
  cases hr : rules[i]? with
  | some r => exact h'.getElem?_eq h hr hr rfl
  | none =>
      have hi := List.getElem?_eq_none_iff.1 hr
      rw [List.getElem?_eq_none (h'.answered.length_eq ▸ hi),
        List.getElem?_eq_none (h.answered.length_eq ▸ hi)]

/-- Two passes, over different rules and different records, answer a rule that stands in both in
the same way, with the same group or the same notice, if the records that it asks for have the same
texts in the same order. Changes to records that the rule does not ask for leave these as they
are. -/
theorem same_answer_of_same_view {engine engine' : Engine} {s s' : Schedule}
    {rules rules' : List Rule} {records : List ρ} {others : List ρ'} {groups groups' : List Group}
    (hs : s.Admissible rules records) (hs' : s'.Admissible rules' others)
    (h : (routeWith engine s rules records).result = .ok groups)
    (h' : (routeWith engine' s' rules' others).result = .ok groups') :
    (∃! answers, IsAccount rules records (routeWith engine s rules records) answers) ∧
    (∃! answers', IsAccount rules' others (routeWith engine' s' rules' others) answers') ∧
    (∀ answers answers', IsAccount rules records (routeWith engine s rules records) answers →
      IsAccount rules' others (routeWith engine' s' rules' others) answers' →
        ∀ (r : Rule) (i j : Nat), rules[i]? = some r → rules'[j]? = some r →
          r.view records = r.view others →
            ∃ answer, answers[i]? = some answer ∧ answers'[j]? = some answer) ∧
    ∀ (r : Rule) (edited : List ρ), Relation.ReflTransGen r.UnseenEdit records edited →
      r.view edited = r.view records := by
  obtain ⟨answers, haccount⟩ := exists_isAccount hs h
  obtain ⟨answers', haccount'⟩ := exists_isAccount hs' h'
  refine ⟨⟨answers, haccount, fun _ => haccount.unique⟩,
    ⟨answers', haccount', fun _ => haccount'.unique⟩, ?_, fun _ _ => Rule.view_of_unseenEdits⟩
  intro answers answers' haccount haccount' r i j hi hj hview
  obtain ⟨answer, hanswer, _⟩ := haccount.answeredBy hi
  exact ⟨answer, hanswer, (haccount.getElem?_eq haccount' hi hj hview).symm.trans hanswer⟩

/-- The rule for disks and fans is the last of three in the first pass and the first of two in the
second. There a record for no rule has come in front, and the one with the unwanted tag has
another text. -/
theorem same_answer_of_same_view_elsewhere :
    let rules : List Rule := sampleRules.drop 2 ++ [⟨["dev@site"], ⟨["cron"], []⟩, 1⟩]
    let edited : List LogRecord := [
      (LogRecord.new .epoch .info "rotated").withTag "log",
      (LogRecord.new .epoch .err "disk full").withTag "disk",
      (LogRecord.new .epoch .debug "fan is back").withTags ["fan", "noise"]]
    let pass := routeWith .default (.inOrder 3) sampleRules sampleRecords
    let pass' := routeWith .parallelAlways ⟨[1, 0], 0⟩ rules edited
    pass.result = .ok sampleGroups ∧ pass'.result = .ok (sampleGroups.drop 1) ∧
      ∃ answers answers' answer, IsAccount sampleRules sampleRecords pass answers ∧
        IsAccount rules edited pass' answers' ∧
        answers[2]? = some answer ∧ answers'[0]? = some answer := by
  intro rules edited pass pass'
  have hs : (Schedule.inOrder 3).Admissible sampleRules sampleRecords :=
    Schedule.admissible_inOrder sampleRules sampleRecords
  have hs' : Schedule.Admissible ⟨[1, 0], 0⟩ rules edited := ⟨by decide, .inl (by decide)⟩
  have hresult : pass.result = .ok sampleGroups := by decide +kernel
  have hresult' : pass'.result = .ok (sampleGroups.drop 1) := by decide +kernel
  obtain ⟨⟨answers, haccount, _⟩, ⟨answers', haccount', _⟩, hsame, _⟩ :=
    same_answer_of_same_view hs hs' hresult hresult'
  obtain ⟨answer, hanswer, hanswer'⟩ :=
    hsame answers answers' haccount haccount' _ 2 0 rfl rfl (by decide +kernel)
  exact ⟨hresult, hresult', answers, answers', answer, haccount, haccount', hanswer, hanswer'⟩

end ReportRouting
