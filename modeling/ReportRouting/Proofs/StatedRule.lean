import ReportRouting.Proofs.RuleFile
import ReportRouting.Proofs.Words

/-!
What a file can state.

The recipients of a rule have no comma, no colon and no blank in them, and its lists of tags are
lists of names without repetition. Every rule that is read from a file is such a rule.
-/

namespace ReportRouting

open Text

structure IsRecipient (name : String) : Prop where
  isWord : IsWord name.toList
  comma_not_mem : ',' ∉ name.toList
  colon_not_mem : ':' ∉ name.toList

structure TagExpr.IsStated (e : TagExpr) : Prop where
  positive_ne_nil : e.positive ≠ []
  isTagName_positive : ∀ name ∈ e.positive, isTagName name.toList = true
  isTagName_negative : ∀ name ∈ e.negative, isTagName name.toList = true
  wildcard_not_mem : wildcardTag ∉ e.negative
  nodup_positive : e.positive.Nodup
  nodup_negative : e.negative.Nodup

structure Rule.IsStated (r : Rule) : Prop where
  recipients_ne_nil : r.recipients ≠ []
  isRecipient : ∀ name ∈ r.recipients, IsRecipient name
  tags : r.tags.IsStated

theorem isRecipient_of_mem_readRecipients {s : List Char} (hcolon : ':' ∉ s) {name : String}
    (h : name ∈ readRecipients s) : IsRecipient name := by
  rw [readRecipients, List.mem_map] at h
  obtain ⟨piece, hpiece, rfl⟩ := h
  obtain ⟨hpiece, hne⟩ := List.mem_filter.1 hpiece
  have hchar : ∀ c ∈ piece, c ∈ s ∧ c ≠ ',' ∧ isBlank c = false := by
    intro c hc
    have hflatten := List.mem_flatten.2 ⟨piece, hpiece, hc⟩
    rw [flatten_splitOnP, List.mem_filter] at hflatten
    simpa using hflatten
  constructor
  · constructor
    · simpa using hne
    · simpa using fun c hc => (hchar c hc).2.2
  · simpa using fun hc => (hchar ',' hc).2.1 rfl
  · simpa using fun hc => hcolon (hchar ':' hc).1

theorem TagToken.isTagName_of_positive? {token : TagToken} (h : token.IsProper) {name : String}
    (hname : token.positive? = some name) : isTagName name.toList = true := by
  cases token with
  | tag _ =>
      cases hname
      exact h.1
  | negated _ => cases hname
  | wildcard =>
      cases hname
      exact isTagName_wildcardTag

theorem TagToken.isTagName_of_negative? {token : TagToken} (h : token.IsProper) {name : String}
    (hname : token.negative? = some name) :
    isTagName name.toList = true ∧ name ≠ wildcardTag := by
  cases token with
  | negated _ =>
      cases hname
      exact h
  | _ => cases hname

theorem nodup_eraseDups (names : List String) : names.eraseDups.Nodup := by
  match names with
  | [] => exact List.nodup_nil
  | name :: names =>
      rw [List.eraseDups_cons, List.nodup_cons, List.mem_eraseDups]
      refine ⟨?_, nodup_eraseDups (names.filter (!· == name))⟩
      simp
termination_by names.length
decreasing_by exact Nat.lt_succ_of_le (List.length_filter_le _ _)

theorem eraseDups_of_nodup {names : List String} (h : names.Nodup) : names.eraseDups = names := by
  induction names with
  | nil => rfl
  | cons name names ih =>
      obtain ⟨hname, hnames⟩ := List.nodup_cons.1 h
      have hfilter : names.filter (!· == name) = names := by
        rw [List.filter_eq_self]
        intro other hother
        have hne : other ≠ name := fun h => hname (h ▸ hother)
        simpa using hne
      rw [List.eraseDups_cons, hfilter, ih hnames]

theorem TagExpr.isStated_of_ofTokens {tokens : List TagToken} {e : TagExpr}
    (hproper : ∀ token ∈ tokens, token.IsProper) (h : TagExpr.ofTokens tokens = .ok e) :
    e.IsStated := by
  obtain ⟨⟨token, htoken, hsome⟩, rfl⟩ := TagExpr.ofTokens_eq_ok_iff.1 h
  constructor
  case positive_ne_nil =>
    obtain ⟨name, hname⟩ := Option.isSome_iff_exists.1 hsome
    have hmem : name ∈ (tokens.filterMap TagToken.positive?).eraseDups :=
      List.mem_eraseDups.2 (List.mem_filterMap.2 ⟨token, htoken, hname⟩)
    exact List.ne_nil_of_mem hmem
  case isTagName_positive =>
    intro name hname
    obtain ⟨token, htoken, hname⟩ := List.mem_filterMap.1 (List.mem_eraseDups.1 hname)
    exact TagToken.isTagName_of_positive? (hproper token htoken) hname
  case isTagName_negative =>
    intro name hname
    obtain ⟨token, htoken, hname⟩ := List.mem_filterMap.1 (List.mem_eraseDups.1 hname)
    exact (TagToken.isTagName_of_negative? (hproper token htoken) hname).1
  case wildcard_not_mem =>
    intro hname
    obtain ⟨token, htoken, hname⟩ := List.mem_filterMap.1 (List.mem_eraseDups.1 hname)
    exact (TagToken.isTagName_of_negative? (hproper token htoken) hname).2 rfl
  case nodup_positive => exact nodup_eraseDups _
  case nodup_negative => exact nodup_eraseDups _

theorem isStated_of_readRuleLine {line : List Char} {recipients : List String} {tags : TagExpr}
    (h : readRuleLine line = .ok (some (recipients, tags))) (number : Nat) :
    (Rule.mk recipients tags number).IsStated := by
  obtain ⟨_, _, before, after, tokens, _, hcolon, rfl, hne, htokens, htags⟩ :=
    readRuleLine_eq_some_iff.1 h
  have hproper := (readTokens_eq_ok_iff.1 htokens).1
  exact ⟨hne, fun _ hname => isRecipient_of_mem_readRecipients hcolon hname,
    TagExpr.isStated_of_ofTokens hproper htags⟩

/-- Every rule of a file is one that a file can state. -/
theorem isStated_of_readRules {text : String} {rules : List Rule}
    (h : readRules text = .ok rules) : ∀ r ∈ rules, r.IsStated := by
  intro r hr
  obtain ⟨line, _, hread⟩ := exists_line_of_mem_rules h hr
  exact isStated_of_readRuleLine hread r.line

end ReportRouting
