import ReportRouting.Proofs.LineByLine
import ReportRouting.Proofs.LineFaults
import ReportRouting.Record.LogRecord
import ReportRouting.Route.Schedule

/-!
The tags of a rule are a set.

An expression keeps its tags in two lists, without repetitions, and the wildcard among the wanted
ones as if it were a tag. None of this is seen in what it accepts: a record is asked for if it
carries a wanted tag, or any record is, and if it carries no unwanted one. So tags may change
places or be repeated: the rules that are read from the lines act like the rules from before, and
no pass can tell them apart.
-/

namespace ReportRouting

open Text

/-! ### Tokens -/

/-- What a list of tags asks of the tags that a record carries. -/
def AskedBy (tokens : List TagToken) (tagged : String → Bool) : Prop :=
  ((∃ name, .tag name ∈ tokens ∧ tagged name = true) ∨ .wildcard ∈ tokens) ∧
    ∀ name, .negated name ∈ tokens → tagged name = false

theorem askedBy_congr {tokens others : List TagToken}
    (h : ∀ token, token ∈ tokens ↔ token ∈ others) (tagged : String → Bool) :
    AskedBy tokens tagged ↔ AskedBy others tagged := by
  simp only [AskedBy, h]

namespace TagToken

theorem positive?_eq_some_iff {token : TagToken} {name : String} :
    token.positive? = some name ↔ token = .tag name ∨ token = .wildcard ∧ name = wildcardTag := by
  cases token with
  | tag _ => simp [positive?]
  | negated _ => simp [positive?]
  | wildcard => simp [positive?, eq_comm]

theorem negative?_eq_some_iff {token : TagToken} {name : String} :
    token.negative? = some name ↔ token = .negated name := by
  cases token <;> simp [negative?]

end TagToken

namespace TagExpr

variable {tokens others : List TagToken} {e e' : TagExpr}

theorem mem_positive_iff (h : ofTokens tokens = .ok e) {name : String} :
    name ∈ e.positive ↔ .tag name ∈ tokens ∨ .wildcard ∈ tokens ∧ name = wildcardTag := by
  rw [(ofTokens_eq_ok_iff.1 h).2, List.mem_eraseDups, List.mem_filterMap]
  simp only [TagToken.positive?_eq_some_iff]
  constructor
  · rintro ⟨_, htoken, rfl | ⟨rfl, hname⟩⟩
    · exact .inl htoken
    · exact .inr ⟨htoken, hname⟩
  · rintro (htoken | ⟨htoken, hname⟩)
    · exact ⟨_, htoken, .inl rfl⟩
    · exact ⟨_, htoken, .inr ⟨rfl, hname⟩⟩

theorem mem_negative_iff (h : ofTokens tokens = .ok e) {name : String} :
    name ∈ e.negative ↔ .negated name ∈ tokens := by
  rw [(ofTokens_eq_ok_iff.1 h).2, List.mem_eraseDups, List.mem_filterMap]
  simp only [TagToken.negative?_eq_some_iff, exists_eq_right]

/-- A tag that is read is never named like the wildcard, so that the wildcard can be kept among
the wanted tags. -/
theorem wildcardTag_mem_positive_iff (hproper : ∀ token ∈ tokens, token.IsProper)
    (h : ofTokens tokens = .ok e) : wildcardTag ∈ e.positive ↔ .wildcard ∈ tokens := by
  rw [mem_positive_iff h, and_iff_left rfl, or_iff_right]
  exact fun htag => (hproper _ htag).2 rfl

theorem accepts_iff_askedBy (hproper : ∀ token ∈ tokens, token.IsProper)
    (h : ofTokens tokens = .ok e) (tagged : String → Bool) :
    e.accepts tagged = true ↔ AskedBy tokens tagged := by
  have hwanted : (wildcardTag ∈ e.positive ∨ ∃ t ∈ e.positive, tagged t = true) ↔
      (∃ name, .tag name ∈ tokens ∧ tagged name = true) ∨ .wildcard ∈ tokens := by
    rw [wildcardTag_mem_positive_iff hproper h]
    simp only [mem_positive_iff h]
    -- A record may carry a tag that is named like the wildcard, but then the wildcard is there.
    constructor
    · rintro (hall | ⟨name, htag | ⟨hall, _⟩, htagged⟩)
      · exact .inr hall
      · exact .inl ⟨name, htag, htagged⟩
      · exact .inr hall
    · rintro (⟨name, htag, htagged⟩ | hall)
      · exact .inr ⟨name, .inl htag, htagged⟩
      · exact .inl hall
  rw [accepts_iff, hwanted, AskedBy]
  simp only [mem_negative_iff h]

theorem exists_ofTokens_eq_ok_iff :
    (∃ e, ofTokens tokens = .ok e) ↔ ∃ token ∈ tokens, ∀ name, token ≠ .negated name := by
  have hpositive : ∀ token : TagToken, token.positive?.isSome = true ↔
      ∀ name, token ≠ .negated name := by
    intro token
    cases token <;> simp [TagToken.positive?]
  simp only [ofTokens_eq_ok_iff, hpositive, exists_and_left, exists_eq, and_true]

theorem exists_ofTokens_congr (h : ∀ token, token ∈ tokens ↔ token ∈ others) :
    (∃ e, ofTokens tokens = .ok e) ↔ ∃ e, ofTokens others = .ok e := by
  simp only [exists_ofTokens_eq_ok_iff, h]

end TagExpr

/-- Tokens that can be read make up expressions that accept the same, if they are the same tokens
in any order and number. -/
theorem TagExpr.accepts_eq_of_same_tokens {tags tags' : List Char} {tokens tokens' : List TagToken}
    {e e' : TagExpr} (hread : readTokens tags = .ok tokens)
    (hread' : readTokens tags' = .ok tokens')
    (hsame : ∀ token, token ∈ tokens ↔ token ∈ tokens') (h : ofTokens tokens = .ok e)
    (h' : ofTokens tokens' = .ok e') (tagged : String → Bool) :
    e.accepts tagged = e'.accepts tagged := by
  have hproper := (readTokens_eq_ok_iff.1 hread).1
  have hproper' := (readTokens_eq_ok_iff.1 hread').1
  rw [Bool.eq_iff_iff, accepts_iff_askedBy hproper h, accepts_iff_askedBy hproper' h',
    askedBy_congr hsame]

/-! ### Rules that act alike -/

/-- Two rules for the same recipients from the same line, whose expressions accept the same. -/
structure Rule.ActsLike (r r' : Rule) : Prop where
  recipients : r.recipients = r'.recipients
  line : r.line = r'.line
  accepts : ∀ tagged, r.tags.accepts tagged = r'.tags.accepts tagged

section

variable {ρ ε : Type} [Record ρ ε] {rules rules' : List Rule}

theorem Rule.ActsLike.body?_eq {r r' : Rule} (h : r.ActsLike r') (records : List ρ) :
    r.body? records = r'.body? records := by
  have hselected : r.selected records = r'.selected records :=
    List.filter_congr fun record _ => h.accepts (Record.isTagged record)
  rw [Rule.body?, Rule.body?, hselected]

theorem map_body?_of_actLike (h : List.Forall₂ Rule.ActsLike rules rules') (records : List ρ) :
    (rules.map fun r => r.body? records) = rules'.map fun r => r.body? records := by
  induction h with
  | nil => rfl
  | cons hr _ ih => rw [List.map_cons, List.map_cons, hr.body?_eq, ih]

theorem bodies_of_actLike (h : List.Forall₂ Rule.ActsLike rules rules') (records : List ρ) :
    bodies rules records = bodies rules' records := by
  rw [bodies, bodies, ← mapM_id_map, map_body?_of_actLike h, mapM_id_map]

theorem Schedule.evaluations_of_actLike (h : List.Forall₂ Rule.ActsLike rules rules')
    (records : List ρ) (s : Schedule) :
    s.evaluations rules records = s.evaluations rules' records := by
  have hat : ∀ (rules : List Rule) (i : Nat), (rules[i]?.map fun r => (i, r.body? records)) =
      (rules.map fun r => r.body? records)[i]?.map fun answer => (i, answer) := by
    intro rules i
    rw [List.getElem?_map, Option.map_map]
    rfl
  simp only [evaluations, hat, map_body?_of_actLike h]

theorem Schedule.admissible_of_actLike (h : List.Forall₂ Rule.ActsLike rules rules')
    (records : List ρ) (s : Schedule) :
    s.Admissible rules records ↔ s.Admissible rules' records := by
  have heq := evaluations_of_actLike h records s
  have hlength := h.length_eq
  exact ⟨fun hs => ⟨hs.nodup, heq ▸ hlength ▸ hs.complete⟩,
    fun hs => ⟨hs.nodup, heq.symm ▸ hlength.symm ▸ hs.complete⟩⟩

theorem filterMap_zip_of_actLike {α : Type} {f : Rule → Option String → Option α}
    (hf : ∀ {r r' : Rule}, r.ActsLike r' → f r = f r')
    (h : List.Forall₂ Rule.ActsLike rules rules') (bodies : List (Option String)) :
    ((rules.zip bodies).filterMap fun p => f p.1 p.2) =
      (rules'.zip bodies).filterMap fun p => f p.1 p.2 := by
  induction h generalizing bodies with
  | nil => rfl
  | cons hr _ ih =>
      cases bodies with
      | nil => rfl
      | cons body bodies =>
          rw [List.zip_cons_cons, List.zip_cons_cons, List.filterMap_cons, List.filterMap_cons,
            hf hr, ih]

theorem account_of_actLike (h : List.Forall₂ Rule.ActsLike rules rules')
    (answers : Except ε (List (Option String))) :
    account rules answers = account rules' answers := by
  have hgroup : ∀ {r r' : Rule}, r.ActsLike r' → r.group? = r'.group? := by
    intro r r' hr
    funext body
    rw [Rule.group?, Rule.group?, hr.recipients]
  have hnotice : ∀ {r r' : Rule}, r.ActsLike r' → r.notice? = r'.notice? := by
    intro r r' hr
    funext body
    cases body with
    | none =>
        have hlist : r.recipientList = r'.recipientList := by
          rw [Rule.recipientList, hr.recipients, Rule.recipientList]
        show some (Notice.noMessages r.recipientList r.line) = some (.noMessages _ r'.line)
        rw [hlist, hr.line]
    | some _ => rfl
  cases answers with
  | error fault => rfl
  | ok bodies =>
      rw [account, account, filterMap_zip_of_actLike hgroup h, filterMap_zip_of_actLike hnotice h]

theorem routeWith_of_actLike (h : List.Forall₂ Rule.ActsLike rules rules') (engine : Engine)
    (s : Schedule) (records : List ρ) :
    routeWith engine s rules records = routeWith engine s rules' records := by
  rw [routeWith, routeWith, routeInOrder, routeInOrder, Schedule.bodies, Schedule.bodies,
    Schedule.evaluations_of_actLike h, bodies_of_actLike h, h.length_eq]
  simp only [account_of_actLike h]

end

/-! ### Lines with the same tags -/

theorem HasHalves.not_isBlankLine {line before after : List Char}
    (h : HasHalves line before after) : ¬IsBlankLine line := by
  intro hblank
  have hkept := (hasHalves_iff.1 h).1
  rw [hblank, cutComment_nil] at hkept
  cases before <;> cases hkept

/-- Whether a line with a colon before its comment is a comment itself is seen before the colon. -/
theorem HasHalves.isCommentLine_iff {line before after : List Char}
    (h : HasHalves line before after) : IsCommentLine line ↔ before.head? = some '#' := by
  obtain ⟨rest, hrest⟩ := cutComment_prefix false (trim line)
  rw [IsCommentLine, ← head?_trim, ← hrest, (hasHalves_iff.1 h).1]
  cases before with
  | nil => simp
  | cons c before => rfl

theorem HasHalves.unique {line before after before' after' : List Char}
    (h : HasHalves line before after) (h' : HasHalves line before' after') :
    before = before' ∧ after = after' := by
  have hsome := halves?_eq_some_iff.2 (hasHalves_iff.1 h)
  rw [halves?_eq_some_iff.2 (hasHalves_iff.1 h')] at hsome
  exact (Prod.mk.inj (Option.some.inj hsome)).imp Eq.symm Eq.symm

/-- The tokens of a list are those whose texts are entries. -/
theorem mem_tokens_iff {tags : List Char} {tokens : List TagToken}
    (h : readTokens tags = .ok tokens) {token : TagToken} :
    token ∈ tokens ↔ token.IsProper ∧ token.text ∈ tagEntries tags := by
  obtain ⟨hproper, htext⟩ := readTokens_eq_ok_iff.1 h
  rw [← htext, List.mem_map]
  constructor
  · exact fun htoken => ⟨hproper token htoken, token, htoken, rfl⟩
  · rintro ⟨htoken, other, hother, heq⟩
    have hread := TagToken.read_eq_ok_iff.2 ⟨hproper other hother, heq⟩
    rw [TagToken.read_eq_ok_iff.2 ⟨htoken, rfl⟩] at hread
    rw [Except.ok.inj hread]
    exact hother

/-- A line as it was, or the same recipients and, perhaps in another order and more or less often,
the same tags. -/
inductive SameTags (line : List Char) : List Char → Prop
  | unchanged : SameTags line line
  | tags {edited before after after' : List Char} (hline : HasHalves line before after)
      (hedited : HasHalves edited before after')
      (hentries : ∀ entry, entry ∈ tagEntries after ↔ entry ∈ tagEntries after') :
      SameTags line edited

/-- What two lines state, if it is the same but for the way in which the tags are kept. -/
def StateAlike : Option (List String × TagExpr) → Option (List String × TagExpr) → Prop :=
  Option.Rel fun stated other =>
    stated.1 = other.1 ∧ ∀ tagged, stated.2.accepts tagged = other.2.accepts tagged

theorem StateAlike.refl (stated : Option (List String × TagExpr)) : StateAlike stated stated := by
  cases stated with
  | none => exact .none
  | some _ => exact .some ⟨rfl, fun _ => rfl⟩

theorem exists_readTokens_of_same_entries {tags tags' : List Char} {tokens : List TagToken}
    (h : readTokens tags = .ok tokens)
    (hentries : ∀ entry, entry ∈ tagEntries tags ↔ entry ∈ tagEntries tags') :
    ∃ tokens', readTokens tags' = .ok tokens' ∧ ∀ token, token ∈ tokens ↔ token ∈ tokens' := by
  have hfine := exists_readTokens_iff_isFineEntry.1 ⟨tokens, h⟩
  simp only [hentries] at hfine
  obtain ⟨tokens', h'⟩ := exists_readTokens_iff_isFineEntry.2 hfine
  refine ⟨tokens', h', fun token => ?_⟩
  rw [mem_tokens_iff h, mem_tokens_iff h', hentries]

section

variable {line edited before after after' : List Char} (hline : HasHalves line before after)
  (hedited : HasHalves edited before after')

include hline hedited

theorem isCommentLine_congr : IsCommentLine line ↔ IsCommentLine edited :=
  hline.isCommentLine_iff.trans hedited.isCommentLine_iff.symm

theorem exists_readRuleLine_of_same_entries
    (hentries : ∀ entry, entry ∈ tagEntries after ↔ entry ∈ tagEntries after')
    {recipients : List String} {e : TagExpr}
    (hread : readRuleLine line = .ok (some (recipients, e))) :
    ∃ e', readRuleLine edited = .ok (some (recipients, e')) ∧
      ∀ tagged, e.accepts tagged = e'.accepts tagged := by
  obtain ⟨_, hcomment, _, _, tokens, hkept, hcolon, hrecipients, hne, htokens, htags⟩ :=
    readRuleLine_eq_some_iff.1 hread
  obtain ⟨rfl, rfl⟩ := hline.unique (hasHalves_iff.2 ⟨hkept, hcolon⟩)
  obtain ⟨tokens', htokens', hsame⟩ := exists_readTokens_of_same_entries htokens hentries
  obtain ⟨e', htags'⟩ := (TagExpr.exists_ofTokens_congr hsame).1 ⟨e, htags⟩
  rw [isCommentLine_congr hline hedited] at hcomment
  have hkept' := (hasHalves_iff.1 hedited).1
  exact ⟨e', readRuleLine_eq_some_iff.2 ⟨hedited.not_isBlankLine, hcomment, before, after', tokens',
      hkept', hcolon, hrecipients, hne, htokens', htags'⟩,
    TagExpr.accepts_eq_of_same_tokens htokens htokens' hsame htags htags'⟩

end

theorem readRuleLine_of_sameTags {line edited : List Char} (h : SameTags line edited)
    {stated : Option (List String × TagExpr)} (hread : readRuleLine line = .ok stated) :
    ∃ stated', readRuleLine edited = .ok stated' ∧ StateAlike stated stated' := by
  cases h with
  | unchanged => exact ⟨stated, hread, .refl stated⟩
  | tags hline hedited hentries =>
      cases stated with
      | none =>
          rcases readRuleLine_eq_none_iff.1 hread with hblank | hcomment
          · exact absurd hblank hline.not_isBlankLine
          · have hcomment' := (isCommentLine_congr hline hedited).1 hcomment
            exact ⟨none, readRuleLine_of_no_rule (.inr hcomment'), .none⟩
      | some stated =>
          obtain ⟨e', hread', haccepts⟩ :=
            exists_readRuleLine_of_same_entries hline hedited hentries hread
          exact ⟨_, hread', .some ⟨rfl, haccepts⟩⟩

theorem readNumberedLine_of_sameTags {line edited : List Char} (h : SameTags line edited)
    {number : Nat} {entry : Option Rule} (hread : readNumberedLine line number = .ok entry) :
    ∃ entry', readNumberedLine edited number = .ok entry' ∧
      List.Forall₂ Rule.ActsLike entry.toList entry'.toList := by
  obtain ⟨stated, hstated, rfl⟩ := readNumberedLine_eq_ok_iff.1 hread
  obtain ⟨stated', hstated', halike⟩ := readRuleLine_of_sameTags h hstated
  refine ⟨_, readNumberedLine_eq_ok_iff.2 ⟨stated', hstated', rfl⟩, ?_⟩
  cases halike with
  | none => exact .nil
  | some halike => exact .cons ⟨halike.1, rfl, halike.2⟩ .nil

theorem readLinesFrom_of_sameTags {ls edited : List (List Char)}
    (h : List.Forall₂ SameTags ls edited) {number : Nat} {rules : List Rule}
    (hread : readLinesFrom number ls = .ok rules) :
    ∃ rules', readLinesFrom number edited = .ok rules' ∧
      List.Forall₂ Rule.ActsLike rules rules' := by
  induction h generalizing number rules with
  | nil =>
      cases hread
      exact ⟨[], rfl, .nil⟩
  | cons hline _ ih =>
      rw [readLinesFrom_cons] at hread
      obtain ⟨entry, hentry, hread⟩ := bind_eq_ok_iff.1 hread
      obtain ⟨others, hothers, hread⟩ := bind_eq_ok_iff.1 hread
      cases hread
      obtain ⟨entry', hentry', halike⟩ := readNumberedLine_of_sameTags hline hentry
      obtain ⟨others', hothers', halikes⟩ := ih hothers
      refine ⟨entry'.toList ++ others', ?_, List.rel_append halike halikes⟩
      rw [readLinesFrom_cons, hentry', hothers']
      rfl

/-- Of lists of tags that can be read, with the same tags in any order and number, both make up an
expression or neither does, if all tags are unwanted ones. The expressions accept the same: what
carries a wanted tag, or anything if the wildcard is wanted, and no unwanted tag. So in a file that
can be read, the tags of rules may change places or be repeated. It can be read again, and whatever
the records are, they are routed as before, with the same groups and notices or the same fault. -/
theorem tags_count_as_set :
    (∀ (tags tags' : List Char) (tokens tokens' : List TagToken),
      readTokens tags = .ok tokens → readTokens tags' = .ok tokens' →
      (∀ token, token ∈ tokens ↔ token ∈ tokens') →
        ((∃ e, TagExpr.ofTokens tokens = .ok e) ↔ ∃ e', TagExpr.ofTokens tokens' = .ok e') ∧
        ((∃ e, TagExpr.ofTokens tokens = .ok e) ↔ ∃ token ∈ tokens, ∀ name, token ≠ .negated name) ∧
        ∀ e e', TagExpr.ofTokens tokens = .ok e → TagExpr.ofTokens tokens' = .ok e' →
          ∀ tagged, (e.accepts tagged = true ↔ AskedBy tokens tagged) ∧
            e.accepts tagged = e'.accepts tagged) ∧
    ∀ (text edited : String) (rules : List Rule), readRules text = .ok rules →
      List.Forall₂ SameTags (lines text.toList) (lines edited.toList) →
        ∃ rules', readRules edited = .ok rules' ∧
          ∀ {ρ ε : Type} [Record ρ ε] (records : List ρ) (engine : Engine),
            route engine rules records = route engine rules' records ∧
            ∀ s : Schedule, (s.Admissible rules records ↔ s.Admissible rules' records) ∧
              routeWith engine s rules records = routeWith engine s rules' records := by
  constructor
  · intro tags tags' tokens tokens' hread hread' hsame
    refine ⟨TagExpr.exists_ofTokens_congr hsame, TagExpr.exists_ofTokens_eq_ok_iff,
      fun e e' he he' tagged => ⟨?_, ?_⟩⟩
    · exact TagExpr.accepts_iff_askedBy (readTokens_eq_ok_iff.1 hread).1 he tagged
    · exact TagExpr.accepts_eq_of_same_tokens hread hread' hsame he he' tagged
  · intro text edited rules hread hlines
    obtain ⟨rules', hread', halike⟩ := readLinesFrom_of_sameTags hlines hread
    refine ⟨rules', hread', fun records engine => ⟨?_, fun s => ⟨?_, ?_⟩⟩⟩
    · rw [route, route, halike.length_eq]
      exact routeWith_of_actLike halike engine _ records
    · exact s.admissible_of_actLike halike records
    · exact routeWith_of_actLike halike engine s records

/-- The wildcard among tags that exclude one another, and a comment that comes to a line with a
repeated tag. -/
theorem tags_count_as_set_of_sample :
    let file := "ops@site: fan, disk, !noise\n\nhw@site: !fan, all, fan # a: b"
    let edited := "ops@site:disk,!noise,fan,disk # a: b\n\nhw@site: fan, !fan,fan , all"
    let rules : List Rule :=
      [⟨["ops@site"], ⟨["fan", "disk"], ["noise"]⟩, 1⟩, ⟨["hw@site"], ⟨["all", "fan"], ["fan"]⟩, 3⟩]
    let rules' : List Rule :=
      [⟨["ops@site"], ⟨["disk", "fan"], ["noise"]⟩, 1⟩, ⟨["hw@site"], ⟨["fan", "all"], ["fan"]⟩, 3⟩]
    readRules file = .ok rules ∧ readRules edited = .ok rules' ∧
    (∀ tagged, TagExpr.accepts ⟨["all", "fan"], ["fan"]⟩ tagged =
      TagExpr.accepts ⟨["fan", "all"], ["fan"]⟩ tagged) ∧
    ∀ (records : List LogRecord) (engine : Engine),
      route engine rules records = route engine rules' records := by
  intro file edited rules rules'
  have hset : ∀ {α : Type} {xs ys : List α}, (∀ x ∈ xs, x ∈ ys) → (∀ y ∈ ys, y ∈ xs) →
      ∀ x, x ∈ xs ↔ x ∈ ys := fun h h' x => ⟨h x, h' x⟩
  have hfirst : SameTags "ops@site: fan, disk, !noise".toList
      "ops@site:disk,!noise,fan,disk # a: b".toList :=
    @SameTags.tags _ _ "ops@site".toList " fan, disk, !noise".toList "disk,!noise,fan,disk ".toList
      (hasHalves_iff.2 (by decide +kernel)) (hasHalves_iff.2 (by decide +kernel))
      (hset (by decide +kernel) (by decide +kernel))
  have hlast : SameTags "hw@site: !fan, all, fan # a: b".toList
      "hw@site: fan, !fan,fan , all".toList :=
    @SameTags.tags _ _ "hw@site".toList " !fan, all, fan ".toList " fan, !fan,fan , all".toList
      (hasHalves_iff.2 (by decide +kernel)) (hasHalves_iff.2 (by decide +kernel))
      (hset (by decide +kernel) (by decide +kernel))
  have hfile : lines file.toList =
      ["ops@site: fan, disk, !noise".toList, [], "hw@site: !fan, all, fan # a: b".toList] := by
    decide +kernel
  have hedited : lines edited.toList = ["ops@site:disk,!noise,fan,disk # a: b".toList, [],
      "hw@site: fan, !fan,fan , all".toList] := by
    decide +kernel
  have hlines : List.Forall₂ SameTags (lines file.toList) (lines edited.toList) := by
    rw [hfile, hedited]
    exact .cons hfirst (.cons .unchanged (.cons hlast .nil))
  have hread : readRules file = .ok rules := by decide +kernel
  have hread' : readRules edited = .ok rules' := by decide +kernel
  obtain ⟨htokens, hroute⟩ := tags_count_as_set
  refine ⟨hread, hread', fun tagged => ?_, fun records engine => ?_⟩
  · have hsame := @hset TagToken [.negated "fan", .wildcard, .tag "fan"]
      [.tag "fan", .negated "fan", .tag "fan", .wildcard] (by decide) (by decide)
    obtain ⟨_, _, haccepts⟩ := htokens "!fan, all, fan".toList "fan, !fan,fan , all".toList _ _
      (by decide +kernel) (by decide +kernel) hsame
    exact (haccepts _ _ (by decide +kernel) (by decide +kernel) tagged).2
  · obtain ⟨others, hothers, hsame⟩ := hroute file edited rules hread hlines
    rw [hread'] at hothers
    cases hothers
    exact (hsame records engine).1

/-- A tag that is named like the wildcard cannot be read, and an expression would take it for the
wildcard. -/
example : TagExpr.ofTokens [.tag wildcardTag] = .ok ⟨[wildcardTag], []⟩ ∧
    TagExpr.accepts ⟨[wildcardTag], []⟩ (fun _ => false) = true := by
  decide

end ReportRouting
