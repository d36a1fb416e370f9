import ReportRouting.Proofs.Schedules
import ReportRouting.Proofs.StatedRule

/-!
The wildcard is no tag.

A rule that stands in a file may ask for the wildcard, but it never excludes it, and asking for it
is asking for every record. So nobody ever looks whether a record carries a tag of that name: two
runs whose records differ in nothing else come to the same groups and notices, or to the same
fault. Names that are near the wildcard, such as `All` or `all.x`, are tags like any other.
-/

namespace ReportRouting

variable {ρ ρ' ε : Type} [Record ρ ε] [Record ρ' ε]

/-- Two records with the same text and the same tags, but perhaps for one that is named like the
wildcard. -/
structure SameButWildcard (record : ρ) (other : ρ') : Prop where
  isTagged : ∀ t, t ≠ wildcardTag → Record.isTagged record t = Record.isTagged other t
  render : Record.render record = Record.render other

theorem LogRecord.sameButWildcard_withTag (log : LogRecord) :
    SameButWildcard log (log.withTag wildcardTag) := by
  refine ⟨fun t ht => ?_, rfl⟩
  show log.tags.contains t = (log.tags.insert wildcardTag).contains t
  rw [Bool.eq_iff_iff, TagSet.contains_iff, TagSet.contains_iff, TagSet.mem_names_insert]
  exact (or_iff_right ht).symm

/-! ### What an expression asks -/

namespace TagExpr

variable {e : TagExpr} {tagged tagged' : String → Bool}

theorem any_congr_of_mem {names : List String} (h : ∀ t ∈ names, tagged t = tagged' t) :
    names.any tagged = names.any tagged' := by
  rw [Bool.eq_iff_iff, List.any_eq_true, List.any_eq_true]
  exact exists_congr fun t => and_congr_right fun ht => by rw [h t ht]

/-- With the wildcard among the wanted tags no other tag is asked for, and without it the wildcard
is not asked for. -/
theorem isCandidate_congr (h : ∀ t ∈ e.positive, t ≠ wildcardTag → tagged t = tagged' t) :
    e.isCandidate tagged = e.isCandidate tagged' := by
  rw [isCandidate, isCandidate]
  cases hwildcard : e.isWildcard with
  | true => rfl
  | false =>
      have hmem : wildcardTag ∉ e.positive := by simpa [isWildcard] using hwildcard
      have hany : e.positive.any tagged = e.positive.any tagged' :=
        any_congr_of_mem fun t ht => h t ht fun hall => hmem (hall ▸ ht)
      rw [hany]

theorem accepts_congr (hnegative : wildcardTag ∉ e.negative)
    (h : ∀ t, t ≠ wildcardTag → tagged t = tagged' t) : e.accepts tagged = e.accepts tagged' := by
  have hexcluded : e.isExcluded tagged = e.isExcluded tagged' :=
    any_congr_of_mem fun t ht => h t fun hall => hnegative (hall ▸ ht)
  rw [accepts, accepts, isCandidate_congr fun t _ => h t, hexcluded]

/-- An expression that could not be read from a file: excluding the wildcard would make a tag
of it. -/
example : accepts ⟨["disk"], [wildcardTag]⟩ (fun t => t = "disk") ≠
    accepts ⟨["disk"], [wildcardTag]⟩ (fun t => t = "disk" ∨ t = wildcardTag) := by
  decide

end TagExpr

theorem SameButWildcard.alikeFor {record : ρ} {other : ρ'} (h : SameButWildcard record other)
    {rules : List Rule} (hrules : ∀ r ∈ rules, r.IsStated) : AlikeFor rules record other := by
  intro r hr
  have haccepts : r.accepts record = r.accepts other :=
    TagExpr.accepts_congr (hrules r hr).tags.wildcard_not_mem h.isTagged
  exact ⟨by rw [← Rule.accepts_iff_matches, haccepts, Rule.accepts_iff_matches], fun _ => h.render⟩

/-! ### Passes -/

/-- Records that differ only in whether they carry a tag that is named like the wildcard are
routed alike through the rules of a file: a pass gives the same groups and notices, or it has the
same fault. So it is for rules that are evaluated several at a time, whatever the schedule. -/
theorem route_blind_to_wildcard_tag {text : String} {rules : List Rule}
    (h : readRules text = .ok rules) {records : List ρ} {others : List ρ'}
    (hsame : List.Forall₂ SameButWildcard records others) (engine : Engine) :
    route engine rules records = route engine rules others ∧
    ∀ s : Schedule, (s.Admissible rules records ↔ s.Admissible rules others) ∧
      routeWith engine s rules records = routeWith engine s rules others := by
  have halike : List.Forall₂ (AlikeFor rules) records others :=
    hsame.imp fun _ _ hsame => hsame.alikeFor (isStated_of_readRules h)
  exact ⟨routeWith_of_alike halike, fun s => ⟨s.admissible_of_alike halike,
    routeWith_of_alike halike⟩⟩

/-- The wildcard asked for, and its neighbours excluded and asked for, one of them twice. -/
def wildcardFile : String :=
  "ops@site: all, !All, all\nweb@site: all.x, web, all.x # all: nobody\nhw@site: fan, !al"

def wildcardRules : List Rule := [
  ⟨["ops@site"], ⟨["all"], ["All"]⟩, 1⟩,
  ⟨["web@site"], ⟨["all.x", "web"], []⟩, 2⟩,
  ⟨["hw@site"], ⟨["fan"], ["al"]⟩, 3⟩]

def wildcardLogs : List LogRecord := [
  (LogRecord.new .epoch .err "disk full").withTag "disk",
  (LogRecord.new .epoch .info "rotated").withTag "All",
  (LogRecord.new .epoch .notice "page moved").withTag "all.x"]

def wildcardGroups : List Group := [
  ⟨["ops@site"], "1970-01-01 00:00:00 +0000 (err): disk full\n"
    ++ "1970-01-01 00:00:00 +0000 (notice): page moved"⟩,
  ⟨["web@site"], "1970-01-01 00:00:00 +0000 (notice): page moved"⟩]

/-- With a tag that is named like the wildcard on every record, the first rule still gets what it
got, the second gets no more, and the third still has nothing to report. -/
theorem route_blind_to_wildcard_tag_of_sample :
    let tagged := wildcardLogs.map fun log => log.withTag wildcardTag
    let pass := route .default wildcardRules tagged
    readRules wildcardFile = .ok wildcardRules ∧
    List.Forall₂ SameButWildcard wildcardLogs tagged ∧
    (∀ log ∈ tagged, Record.isTagged log wildcardTag = true) ∧
    pass.result = .ok wildcardGroups ∧ pass.notices = [.noMessages "hw@site" 3] := by
  intro tagged pass
  have hread : readRules wildcardFile = .ok wildcardRules := by decide +kernel
  have hsame : List.Forall₂ SameButWildcard wildcardLogs tagged :=
    List.forall₂_map_right_iff.2 (List.forall₂_same.2 fun log _ => log.sameButWildcard_withTag)
  have hpass : route .default wildcardRules wildcardLogs = pass :=
    (route_blind_to_wildcard_tag hread hsame .default).1
  have hresult : (route .default wildcardRules wildcardLogs).result = .ok wildcardGroups := by
    decide +kernel
  have hnotices : (route .default wildcardRules wildcardLogs).notices =
      [.noMessages "hw@site" 3] := by
    decide +kernel
  exact ⟨hread, hsame, by decide +kernel, hpass ▸ hresult, hpass ▸ hnotices⟩

end ReportRouting
