import ReportRouting.Proofs.StatedRule

/-!
What a rule has from its line.

The recipients of a rule are the runs of characters before the colon that have no comma and no
blank in them, and its tags are the entries behind the colon, the unwanted ones without their `!`,
each where it stands first. `AreRuns` and `AreFirstOccurrences` say so without the reader. From
this comes what holds of every rule of a file, whatever its line.
-/

namespace ReportRouting

open Text

/-! ### Runs of characters -/

/-- The longest stretches of a text without a comma or a blank, first to last: the text is gaps
and names by turns, and a name ends only at a gap or with the text. -/
inductive AreRuns : List Char → List (List Char) → Prop
  | none {gap : List Char} (hgap : ∀ c ∈ gap, isGap c = true) : AreRuns gap []
  | run {gap name rest : List Char} {names : List (List Char)} (hgap : ∀ c ∈ gap, isGap c = true)
      (hne : name ≠ []) (hname : ∀ c ∈ name, isGap c = false)
      (hend : ∀ c ∈ rest.head?, isGap c = true) (others : AreRuns rest names) :
      AreRuns (gap ++ name ++ rest) (name :: names)

theorem exists_areRuns (s : List Char) : ∃ runs, AreRuns s runs := by
  induction s with
  | nil => exact ⟨[], .none (List.forall_mem_nil _)⟩
  | cons c s ih =>
      obtain ⟨runs, hruns⟩ := ih
      cases hc : isGap c with
      | true =>
          cases hruns with
          | none hgap => exact ⟨[], .none (List.forall_mem_cons.2 ⟨hc, hgap⟩)⟩
          | run hgap hne hname hend others =>
              exact ⟨_, .run (List.forall_mem_cons.2 ⟨hc, hgap⟩) hne hname hend others⟩
      | false =>
          have hone : ∀ d ∈ [c], isGap d = false := List.forall_mem_singleton.2 hc
          have hnil : ∀ d ∈ ([] : List Char), isGap d = true := List.forall_mem_nil _
          cases hruns with
          | none hgap =>
              have hend : ∀ d ∈ s.head?, isGap d = true :=
                fun d hd => hgap d (List.mem_of_head? hd)
              exact ⟨[[c]], .run hnil (List.cons_ne_nil c []) hone hend (.none hgap)⟩
          | @run gap name rest names hgap hne hname hend others =>
              cases gap with
              | nil =>
                  -- The character lengthens the first run.
                  exact ⟨(c :: name) :: names, .run hnil (List.cons_ne_nil c name)
                    (List.forall_mem_cons.2 ⟨hc, hname⟩) hend others⟩
              | cons d gap =>
                  have hd : ∀ e ∈ (d :: gap ++ name ++ rest).head?, isGap e = true := by
                    simpa using hgap d List.mem_cons_self
                  exact ⟨[c] :: name :: names, .run hnil (List.cons_ne_nil c []) hone hd
                    (.run hgap hne hname hend others)⟩

/-- The recipients are the runs of the text. -/
theorem areRuns_iff {s : List Char} {runs : List (List Char)} :
    AreRuns s runs ↔ runs = (readRecipients s).map String.toList := by
  have hread : ∀ runs, AreRuns s runs → runs = (readRecipients s).map String.toList := by
    intro runs hruns
    induction hruns with
    | @none gap hgap =>
        rw [readRecipients_eq_nil_iff.2 hgap, List.map_nil]
    | run hgap hne hname hend _ ih =>
        rw [List.append_assoc, readRecipients_append_of_gap hgap,
          readRecipients_name_append hne hname hend, List.map_cons, ← ih, String.toList_ofList]
  constructor
  · exact hread runs
  · rintro rfl
    obtain ⟨runs, hruns⟩ := exists_areRuns s
    rwa [← hread runs hruns]

/-! ### First occurrences -/

/-- The entries of a list, each of them once, in the order in which they first occur. -/
structure AreFirstOccurrences (names kept : List String) : Prop where
  mem_iff : ∀ name, name ∈ kept ↔ name ∈ names
  ordered : kept.Pairwise fun name other => names.idxOf name < names.idxOf other

theorem idxOf_lt_idxOf_of_filter {p : String → Bool} {names : List String} {name other : String}
    (hname : p name = true) (hother : p other = true)
    (h : (names.filter p).idxOf name < (names.filter p).idxOf other) :
    names.idxOf name < names.idxOf other := by
  induction names with
  | nil => exact absurd h (Nat.lt_irrefl _)
  | cons first names ih =>
      by_cases hfirst : p first = true
      · rw [List.filter_cons_of_pos hfirst] at h
        rw [List.idxOf_cons, List.idxOf_cons] at h ⊢
        by_cases hsame : first = other
        · rw [hsame, beq_self_eq_true] at h
          exact absurd h (Nat.not_lt_zero _)
        · rw [beq_false_of_ne hsame] at h ⊢
          cases hhead : first == name with
          | true => exact Nat.succ_pos _
          | false =>
              rw [hhead] at h
              exact Nat.succ_lt_succ (ih (Nat.lt_of_succ_lt_succ h))
      · rw [List.filter_cons_of_neg hfirst] at h
        have hne : ∀ {x}, p x = true → first ≠ x := fun hx heq => hfirst (heq ▸ hx)
        rw [List.idxOf_cons_ne _ (hne hname), List.idxOf_cons_ne _ (hne hother)]
        exact Nat.succ_lt_succ (ih h)

theorem areFirstOccurrences_eraseDups (names : List String) :
    AreFirstOccurrences names names.eraseDups := by
  refine ⟨fun _ => List.mem_eraseDups, ?_⟩
  match names with
  | [] => exact .nil
  | first :: names =>
      have hrest := (areFirstOccurrences_eraseDups (names.filter (!· == first))).ordered
      have hne : ∀ name ∈ (names.filter (!· == first)).eraseDups, name ≠ first := by
        intro name hname
        have hkept := (List.mem_filter.1 (List.mem_eraseDups.1 hname)).2
        simpa using hkept
      rw [List.eraseDups_cons, List.pairwise_cons]
      constructor
      · intro name hname
        rw [List.idxOf_cons_self, List.idxOf_cons_ne _ (hne name hname).symm]
        exact Nat.succ_pos _
      · refine hrest.imp_of_mem fun {name other} hname hother h => ?_
        rw [List.idxOf_cons_ne _ (hne name hname).symm, List.idxOf_cons_ne _ (hne other hother).symm]
        refine Nat.succ_lt_succ (idxOf_lt_idxOf_of_filter ?_ ?_ h)
        · simpa using hne name hname
        · simpa using hne other hother
termination_by names.length
decreasing_by exact Nat.lt_succ_of_le (List.length_filter_le _ _)

/-! ### Names in a tag list -/

/-- The name of a tag that is wanted: the whole entry, if no `!` stands in front of it. -/
def wantedName? (entry : List Char) : Option String :=
  if entry.head? = some '!' then none else some (String.ofList entry)

/-- The name of a tag that is unwanted: what follows the `!`. -/
def unwantedName? (entry : List Char) : Option String :=
  if entry.head? = some '!' then some (String.ofList entry.tail) else none

namespace TagToken

variable {token : TagToken} (h : token.IsProper)

include h

theorem wantedName?_text : wantedName? token.text = token.positive? := by
  cases token with
  | tag name =>
      rw [wantedName?, text, if_neg (head?_ne_of_isTagName h.1), String.ofList_toList]
      rfl
  | negated name => exact if_pos rfl
  | wildcard => decide

theorem unwantedName?_text : unwantedName? token.text = token.negative? := by
  cases token with
  | tag name => exact if_neg (head?_ne_of_isTagName h.1)
  | negated name =>
      have hname : unwantedName? (negated name).text = some (String.ofList name.toList) := if_pos rfl
      rw [hname, String.ofList_toList]
      rfl
  | wildcard => decide

end TagToken

/-- The tags of a list that can be read are the names in its entries. -/
theorem filterMap_tagEntries {after : List Char} {tokens : List TagToken}
    (h : readTokens after = .ok tokens) :
    (tagEntries after).filterMap wantedName? = tokens.filterMap TagToken.positive? ∧
      (tagEntries after).filterMap unwantedName? = tokens.filterMap TagToken.negative? := by
  obtain ⟨hproper, htext⟩ := readTokens_eq_ok_iff.1 h
  rw [← htext, List.filterMap_map, List.filterMap_map]
  exact ⟨List.filterMap_congr fun token htoken => TagToken.wantedName?_text (hproper token htoken),
    List.filterMap_congr fun token htoken => TagToken.unwantedName?_text (hproper token htoken)⟩

/-! ### Rules -/

/-- What a rule has from the two sides of a colon. -/
structure Rule.IsFrom (r : Rule) (before after : List Char) : Prop where
  recipients : AreRuns before (r.recipients.map String.toList)
  positive : AreFirstOccurrences ((tagEntries after).filterMap wantedName?) r.tags.positive
  negative : AreFirstOccurrences ((tagEntries after).filterMap unwantedName?) r.tags.negative

theorem exists_isFrom_of_readRuleLine {line : List Char} {r : Rule}
    (h : readRuleLine line = .ok (some (r.recipients, r.tags))) :
    ∃ before after, HasHalves line before after ∧ r.IsFrom before after := by
  obtain ⟨_, _, before, after, tokens, hkept, hbefore, hrecipients, _, htokens, htags⟩ :=
    readRuleLine_eq_some_iff.1 h
  obtain ⟨hpositive, hnegative⟩ := filterMap_tagEntries htokens
  refine ⟨before, after, hasHalves_iff.2 ⟨hkept, hbefore⟩, areRuns_iff.2 (by rw [hrecipients]),
    ?_, ?_⟩
  all_goals rw [(TagExpr.ofTokens_eq_ok_iff.1 htags).2]
  · rw [hpositive]
    exact areFirstOccurrences_eraseDups _
  · rw [hnegative]
    exact areFirstOccurrences_eraseDups _

theorem pairwise_line_of_readRules {text : String} {rules : List Rule}
    (h : readRules text = .ok rules) : rules.Pairwise fun r later => r.line < later.line := by
  obtain ⟨entries, hentries, rfl⟩ := readRules_eq_ok_iff.1 h
  have hnumbers : (((lines text.toList).zipIdx 1).map Prod.snd).Pairwise (· < ·) := by
    rw [List.zipIdx_map_snd]
    exact List.pairwise_lt_range'
  rw [← List.pairwise_map, map_line_filterMap_of_forall₂ hentries]
  exact hnumbers.sublist (List.filter_sublist.map _)

/-- Every rule of a file has its recipients and tags from the two sides of the first colon of the
line whose number it bears. So the numbers ascend, and a rule is one that a file can state: it has
recipients, in whose names there is no blank, no comma and no colon, and a wanted tag; its tags
are names and do not repeat, and the wildcard is not unwanted. -/
theorem readRules_takes_rules_from_lines {text : String} {rules : List Rule}
    (h : readRules text = .ok rules) :
    (∀ r ∈ rules, ∃ line before after, (line, r.line) ∈ (lines text.toList).zipIdx 1 ∧
      HasHalves line before after ∧ r.IsFrom before after) ∧
    (rules.Pairwise fun r later => r.line < later.line) ∧
    ∀ r ∈ rules, r.IsStated := by
  refine ⟨fun r hr => ?_, pairwise_line_of_readRules h, isStated_of_readRules h⟩
  obtain ⟨line, hline, hread⟩ := exists_line_of_mem_rules h hr
  obtain ⟨before, after, hhalves, hfrom⟩ := exists_isFrom_of_readRuleLine hread
  exact ⟨line, before, after, hline, hhalves, hfrom⟩

/-- Recipients and tags more than once, and a comment with a colon in it. -/
def repetitiveFile : String :=
  "\n ops@site  web@site,,ops@site\t: !quiet, fan ,disk,!quiet,fan, all # to: all\nhw@site:fan"

def repetitiveFileRules : List Rule := [
  ⟨["ops@site", "web@site", "ops@site"], ⟨["fan", "disk", "all"], ["quiet"]⟩, 2⟩,
  ⟨["hw@site"], ⟨["fan"], []⟩, 3⟩]

theorem readRules_takes_rules_from_lines_of_sample :
    readRules repetitiveFile = .ok repetitiveFileRules ∧
    (∀ r ∈ repetitiveFileRules, ∃ line before after,
      (line, r.line) ∈ (lines repetitiveFile.toList).zipIdx 1 ∧
      HasHalves line before after ∧ r.IsFrom before after) ∧
    (repetitiveFileRules.Pairwise fun r later => r.line < later.line) ∧
    ∀ r ∈ repetitiveFileRules, r.IsStated := by
  have hread : readRules repetitiveFile = .ok repetitiveFileRules := by decide +kernel
  exact ⟨hread, readRules_takes_rules_from_lines hread⟩

end ReportRouting
