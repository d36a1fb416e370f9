import ReportRouting.Proofs.RecordFields
import ReportRouting.Proofs.Routing
import ReportRouting.Proofs.StoredReports
import Mathlib.Data.List.Sort
import Mathlib.Data.String.Basic

/-!
The tags of a log record.

A log record is given its tags one by one, several at a time, or in a document, in any order and as
often as may be. What it keeps is the set of them: a tag is carried if it was given, and it is
written once, in its place in the order of code points. So two records that were given the same
tags cannot be told apart by their tags, neither when they are written nor when they are routed.
-/

namespace ReportRouting

open Json

/-- The numbers of the characters of a text. -/
def codePoints (s : String) : List Nat :=
  s.toList.map Char.toNat

namespace TagSet

variable {s s' : TagSet}

theorem ext_mem (h : ∀ t, t ∈ s.names ↔ t ∈ s'.names) : s = s' :=
  eq_of_names_eq (List.Pairwise.eq_of_mem_iff s.ascending s'.ascending h)

@[simp] theorem mem_names_ofList {names : List String} {t : String} :
    t ∈ (ofList names).names ↔ t ∈ names := by
  rw [ofList, mem_names_insertAll, names_empty, or_iff_left List.not_mem_nil]

theorem count_names (s : TagSet) (t : String) : s.names.count t = if t ∈ s.names then 1 else 0 :=
  s.ascending.nodup.count

/-- The order of texts is that of their code points. -/
theorem pairwise_codePoints (s : TagSet) : (s.names.map codePoints).Pairwise (· < ·) := by
  refine List.pairwise_map.2 (s.ascending.imp fun h => ?_)
  exact List.map_lt (fun _ _ hlt => hlt) (String.lt_iff_toList_lt.1 h)

end TagSet

namespace LogRecord

/-! ### Changes -/

/-- What can be done with a log record that is there. -/
inductive Change where
  | source (s : String)
  | time (t : Instant)
  | tag (name : String)
  | tags (names : List String)

def change (r : LogRecord) : Change → LogRecord
  | .source s => r.withSource s
  | .time t => r.withTime t
  | .tag name => r.withTag name
  | .tags names => r.withTags names

def changeAll (r : LogRecord) (changes : List Change) : LogRecord :=
  changes.foldl change r

namespace Change

/-- The tags that a change gives. -/
def names : Change → List String
  | tag name => [name]
  | tags names => names
  | _ => []

def source? : Change → Option String
  | source s => some s
  | _ => none

def time? : Change → Option Instant
  | time t => some t
  | _ => none

end Change

variable {r r' : LogRecord} {given given' : List String}

theorem mem_tags_change {c : Change} {t : String} :
    t ∈ (r.change c).tags.names ↔ t ∈ c.names ∨ t ∈ r.tags.names := by
  cases c with
  | tag name =>
      show t ∈ (r.tags.insert name).names ↔ t ∈ [name] ∨ _
      rw [TagSet.mem_names_insert, List.mem_singleton]
  | tags names => exact TagSet.mem_names_insertAll
  | source _ => exact (or_iff_right List.not_mem_nil).symm
  | time _ => exact (or_iff_right List.not_mem_nil).symm

theorem mem_tags_changeAll {changes : List Change} {t : String} :
    t ∈ (r.changeAll changes).tags.names ↔ t ∈ changes.flatMap Change.names ∨ t ∈ r.tags.names := by
  induction changes generalizing r with
  | nil => exact (or_iff_right List.not_mem_nil).symm
  | cons c changes ih =>
      have hcons : r.changeAll (c :: changes) = (r.change c).changeAll changes := rfl
      rw [hcons, ih, mem_tags_change, List.flatMap_cons, List.mem_append, or_assoc, or_left_comm]

/-- The other fields of a record are what they were last set to. -/
theorem fields_changeAll (r : LogRecord) (changes : List Change) :
    (r.changeAll changes).level = r.level ∧ (r.changeAll changes).message = r.message ∧
    (r.changeAll changes).source = (changes.filterMap Change.source?).getLastD r.source ∧
    (r.changeAll changes).time = (changes.filterMap Change.time?).getLastD r.time := by
  induction changes generalizing r with
  | nil => exact ⟨rfl, rfl, rfl, rfl⟩
  | cons c changes ih =>
      obtain ⟨hlevel, hmessage, hsource, htime⟩ := ih (r.change c)
      have hcons : r.changeAll (c :: changes) = (r.change c).changeAll changes := rfl
      rw [hcons, hlevel, hmessage, hsource, htime]
      -- What this change sets counts only where no later one sets it again.
      refine ⟨by cases c <;> rfl, by cases c <;> rfl, ?_, ?_⟩
      · cases c with
        | source s => exact List.getLastD_cons.symm
        | _ => rfl
      · cases c with
        | time t => exact List.getLastD_cons.symm
        | _ => rfl

/-! ### Documents -/

/-- The tags that the document of a record states; without the field it states none. -/
def StatesTags (v : Json) (given : List String) : Prop :=
  (v.field? "tags" 4).getD (.array [] true) = .array (given.map .text) true

def readTags (v : Json) : Decoded TagSet := do
  return TagSet.ofList (← decodeSequence decodeText v)

theorem readTags_eq_ok_iff {v : Json} {s : TagSet} :
    readTags v = .ok s ↔ ∃ names, v = .array (names.map .text) true ∧ TagSet.ofList names = s := by
  rw [readTags, bind_eq_ok_iff]
  refine exists_congr fun names => and_congr decodeTexts_eq_ok_iff ?_
  exact ⟨Except.ok.inj, congrArg Except.ok⟩

theorem readTags_of_settle {v : Json} {s : TagSet} (h : readTags v.settle = .ok s) :
    readTags v = .ok s := by
  obtain ⟨names, hnames, hs⟩ := readTags_eq_ok_iff.1 h
  exact readTags_eq_ok_iff.2 ⟨names, settle_eq_texts hnames, hs⟩

theorem exists_statesTags {v : Json} {kept : Option TagSet}
    (h : Option.Rel (fun w s => readTags w = .ok s) (v.field? "tags" 4) kept) :
    ∃ given, StatesTags v given ∧ kept.getD .empty = TagSet.ofList given := by
  generalize hfield : v.field? "tags" 4 = found at h
  cases h with
  | none => exact ⟨[], by rw [StatesTags, hfield]; rfl, rfl⟩
  | some hread =>
      obtain ⟨names, rfl, rfl⟩ := readTags_eq_ok_iff.1 hread
      exact ⟨names, by rw [StatesTags, hfield, Option.getD_some], rfl⟩

theorem isField_tags (stage : Stage) (now : Instant) :
    IsField ((shape (format stage) now).fields.take 4)
      (.of "tags" Draft.tags (fun s d => { d with tags := some s }) readTags) [] Draft.tags
      readTags := by
  refine .of (fun _ _ => rfl) ?_ ?_
  · simp [shape, Field.of]
  · simp only [shape, List.take_succ_cons, List.take_zero, List.append_nil, List.forall_mem_cons]
    exact ⟨get_of_read_of fun _ _ => rfl, get_of_read_of fun _ _ => rfl,
      get_of_read_of fun _ _ => rfl, get_of_read_of fun _ _ => rfl, List.forall_mem_nil _⟩

theorem tags_of_finish {now : Instant} {d : Draft} (h : d.finish now = .ok r) :
    r.tags = d.tags.getD .empty := by
  rw [Draft.finish] at h
  split at h
  · cases h
  · cases h
  · cases h
    rfl

theorem keeps_tags {stage : Stage} {now : Instant} {v : Json}
    (h : decodeRecord stage (shape (format stage) now) v = .ok r) :
    ∃ kept, r.tags = kept.getD .empty ∧ Keeps readTags (v.fieldValues "tags" 4) kept := by
  obtain ⟨draft, hfinish, hkeeps⟩ := (isField_tags stage now).keeps_of_decodeRecord rfl rfl h
  exact ⟨draft.tags, tags_of_finish hfinish, hkeeps⟩

theorem tags_of_decodeRecord {stage : Stage} {now : Instant} {v : Json}
    (h : decodeRecord stage (shape (format stage) now) v = .ok r) :
    ∃ given, StatesTags v given ∧ r.tags = TagSet.ofList given := by
  obtain ⟨kept, htags, hkeeps⟩ := keeps_tags h
  rw [htags]
  exact exists_statesTags hkeeps.rel_getLast?

theorem tags_of_ofJson {now : Instant} {v : Json} (h : ofJson now v = .ok r) :
    ∃ given, StatesTags v given ∧ r.tags = TagSet.ofList given := by
  obtain ⟨kept, htags, hkeeps⟩ := keeps_tags h
  rw [htags]
  exact exists_statesTags (hkeeps.rel_field?_of_settle readTags_of_settle)

/-! ### What the tags are for -/

/-- The tags of a record are the set of those that were given: the record says so of each one, a
rule sees these and no others, and in the text of the record each stands once, in ascending
order. -/
structure HasTags (r : LogRecord) (given : List String) : Prop where
  isTagged_iff : ∀ t, Record.isTagged r t = true ↔ t ∈ given
  accepts_iff : ∀ rule : Rule, rule.accepts r = true ↔
    (wildcardTag ∈ rule.tags.positive ∨ ∃ t ∈ rule.tags.positive, t ∈ given) ∧
      ∀ t ∈ rule.tags.negative, t ∉ given
  written : ∃ (doc : Json) (names : List String), Json.read r.writeJson = (doc, true) ∧
    doc.fieldValues "tags" 4 = [.array (names.map .text) true] ∧
    (names.map codePoints).Pairwise (· < ·) ∧ ∀ t, names.count t = if t ∈ given then 1 else 0

theorem isTagged_iff_mem {t : String} : Record.isTagged r t = true ↔ t ∈ r.tags.names :=
  TagSet.contains_iff

theorem HasTags.of_mem_iff (h : ∀ t, t ∈ r.tags.names ↔ t ∈ given) : r.HasTags given where
  isTagged_iff t := isTagged_iff_mem.trans (h t)
  accepts_iff rule := by
    simp only [Rule.accepts_iff_matches, Rule.Matches, ← Bool.not_eq_true, isTagged_iff_mem, h]
  written := by
    refine ⟨r.toJson, r.tags.names, read_render r.isWhole_toJson, rfl,
      r.tags.pairwise_codePoints, fun t => ?_⟩
    rw [TagSet.count_names]
    exact if_congr (h t) rfl rfl

theorem HasTags.mem_iff (h : r.HasTags given) {t : String} : t ∈ r.tags.names ↔ t ∈ given :=
  isTagged_iff_mem.symm.trans (h.isTagged_iff t)

theorem HasTags.of_eq_ofList (h : r.tags = TagSet.ofList given) : r.HasTags given :=
  .of_mem_iff fun t => by rw [h, TagSet.mem_names_ofList]

theorem HasTags.changeAll (h : r.HasTags given) (changes : List Change) :
    (r.changeAll changes).HasTags (given ++ changes.flatMap Change.names) :=
  .of_mem_iff fun t => by rw [mem_tags_changeAll, h.mem_iff, List.mem_append, or_comm]

theorem HasTags.eq (h : r.HasTags given) (h' : r'.HasTags given')
    (hgiven : ∀ t, t ∈ given ↔ t ∈ given') (hlevel : r.level = r'.level)
    (hmessage : r.message = r'.message) (hsource : r.source = r'.source)
    (htime : r.time = r'.time) : r = r' := by
  have htags : r.tags = r'.tags := TagSet.ext_mem fun t => by
    rw [h.mem_iff, h'.mem_iff, hgiven]
  cases r
  cases r'
  rw [mk.injEq]
  exact ⟨hlevel, hmessage, hsource, htime, htags⟩

theorem hasTags_new (now : Instant) (level : Level) (message : String) :
    (new now level message).HasTags [] :=
  .of_mem_iff fun _ => Iff.rfl

/-- The tags of a record are those that a document states. -/
def HasTagsOf (r : LogRecord) (v : Json) : Prop :=
  ∃ given, StatesTags v given ∧ r.HasTags given

theorem hasTagsOf_of_decodeRecord {stage : Stage} {now : Instant} {v : Json}
    (h : decodeRecord stage (shape (format stage) now) v = .ok r) : r.HasTagsOf v := by
  obtain ⟨given, hgiven, htags⟩ := tags_of_decodeRecord h
  exact ⟨given, hgiven, .of_eq_ofList htags⟩

theorem hasTagsOf_of_readJson {now : Instant} {text : String} (h : readJson now text = .ok r) :
    r.HasTagsOf (Json.read text).1 :=
  hasTagsOf_of_decodeRecord (eq_ok_of_ofText h)

theorem hasTagsOf_of_ofJson {now : Instant} {v : Json} (h : ofJson now v = .ok r) :
    r.HasTagsOf v := by
  obtain ⟨given, hgiven, htags⟩ := tags_of_ofJson h
  exact ⟨given, hgiven, .of_eq_ofList htags⟩

end LogRecord

/-! ### Reports -/

namespace Report

/-- The documents of the records in the document of a report. -/
def logDocuments (v : Json) : List Json :=
  match v.field? "logs" 2 with
  | some (.array items _) => items
  | _ => []

theorem isField_logs (stage : Stage) (now : Instant) :
    IsField ((shape (format stage) now).fields.take 2)
      (.of "logs" Draft.logs (fun logs d => { d with logs := some logs })
        (decodeSequence (decodeRecord stage (LogRecord.shape (format stage) now)))) []
      Draft.logs (decodeSequence (decodeRecord stage (LogRecord.shape (format stage) now))) := by
  refine .of (fun _ _ => rfl) ?_ ?_
  · simp [shape, Field.of]
  · simp only [shape, List.take_succ_cons, List.take_zero, List.append_nil, List.forall_mem_cons]
    exact ⟨get_of_read_of fun _ _ => rfl, get_of_read_of fun _ _ => rfl, List.forall_mem_nil _⟩

theorem logs_of_decodeRecord {stage : Stage} {now : Instant} {v : Json} {report : Report}
    (h : decodeRecord stage (shape (format stage) now) v = .ok report) :
    List.Forall₂ (fun w log => decodeRecord stage (LogRecord.shape (format stage) now) w = .ok log)
      (logDocuments v) report.logs := by
  obtain ⟨draft, hfinish, hkeeps⟩ := (isField_logs stage now).keeps_of_decodeRecord rfl rfl h
  have hlogs : report.logs = draft.logs.getD [] := by
    simp only [shape] at hfinish
    split at hfinish
    · cases hfinish
    · cases hfinish
      rfl
  have hrel : Option.Rel _ (v.field? "logs" 2) draft.logs := hkeeps.rel_getLast?
  rw [hlogs, logDocuments]
  generalize v.field? "logs" 2 = found, draft.logs = kept at hrel ⊢
  cases hrel with
  | none => exact .nil
  | some hread =>
      obtain ⟨items, rfl, hitems⟩ := decodeSequence_eq_ok_iff.1 hread
      exact hitems

theorem hasTagsOf_of_readJson {now : Instant} {text : String} {report : Report}
    (h : readJson now text = .ok report) :
    List.Forall₂ (fun v (log : LogRecord) => log.HasTagsOf v) (logDocuments (Json.read text).1)
      report.logs :=
  (logs_of_decodeRecord (eq_ok_of_ofText h)).imp fun _ _ => LogRecord.hasTagsOf_of_decodeRecord

end Report

/-! ### Records with the same tags -/

/-- A log record has the tags it was given, as a set: those of its changes if it was made from the
start, those stated in its document if it was read, alone or among the logs of a report, as a text
or as a value, and later changes add theirs. So records that were given the same tags, in whatever
order, groups and number, and that agree in everything else, are one record. They are written alike,
and whatever is routed cannot tell one from the other. -/
theorem tags_of_logs_are_sets :
    (∀ (now : Instant) (level : Level) (message : String) (changes : List LogRecord.Change),
      let r := (LogRecord.new now level message).changeAll changes
      r.HasTags (changes.flatMap LogRecord.Change.names) ∧ r.level = level ∧ r.message = message ∧
        r.source = (changes.filterMap LogRecord.Change.source?).getLastD "" ∧
        r.time = (changes.filterMap LogRecord.Change.time?).getLastD now) ∧
    (∀ (now : Instant) (text : String) (r : LogRecord), LogRecord.readJson now text = .ok r →
      r.HasTagsOf (Json.read text).1) ∧
    (∀ (now : Instant) (v : Json) (r : LogRecord), LogRecord.ofJson now v = .ok r →
      r.HasTagsOf v) ∧
    (∀ (now : Instant) (text : String) (report : Report), Report.readJson now text = .ok report →
      List.Forall₂ (fun v (log : LogRecord) => log.HasTagsOf v)
        (Report.logDocuments (Json.read text).1) report.logs) ∧
    (∀ (r : LogRecord) (given : List String) (changes : List LogRecord.Change), r.HasTags given →
      (r.changeAll changes).HasTags (given ++ changes.flatMap LogRecord.Change.names)) ∧
    ∀ (r r' : LogRecord) (given given' : List String), r.HasTags given → r'.HasTags given' →
      (∀ t, t ∈ given ↔ t ∈ given') → r.level = r'.level → r.message = r'.message →
        r.source = r'.source → r.time = r'.time →
          r = r' ∧ r.writeJson = r'.writeJson ∧
          ∀ (engine : Engine) (schedule : Schedule) (rules : List Rule)
            (before after : List LogRecord),
              routeWith engine schedule rules (before ++ r :: after) =
                routeWith engine schedule rules (before ++ r' :: after) := by
  refine ⟨fun now level message changes => ?_, fun _ _ _ => LogRecord.hasTagsOf_of_readJson,
    fun _ _ _ => LogRecord.hasTagsOf_of_ofJson, fun _ _ _ => Report.hasTagsOf_of_readJson,
    fun _ _ changes h => h.changeAll changes, fun r r' given given' h h' hgiven => ?_⟩
  · have hnew := LogRecord.hasTags_new now level message
    exact ⟨hnew.changeAll changes, LogRecord.fields_changeAll _ changes⟩
  · intro hlevel hmessage hsource htime
    obtain rfl := h.eq h' hgiven hlevel hmessage hsource htime
    exact ⟨rfl, rfl, fun _ _ _ _ _ => rfl⟩

def diskRecord : LogRecord :=
  (LogRecord.new .epoch .err "disk full").changeAll
    [.tags ["web", "disk"], .source "sdb", .tag "Web", .tag "disk"]

/-- The tags are the same, but in another order, and another one comes twice. -/
def diskRecordText : String :=
  "\x7b\"tags\":[\"disk\",\"Web\",\"web\",\"Web\"],\"level\":\"err\",\"source\":\"sdb\"," ++
    "\"message\":\"disk full\"\x7d"

/-- Of the two members for the tags the last one counts. -/
def diskRecordDocument : Json :=
  .object [
    (some "tags", .array [.text "cpu"] true),
    (some "level", .text "err"),
    (some "message", .text "disk full"),
    (some "source", .text "sdb"),
    (some "tags", .array (["web", "disk", "web", "Web"].map .text) true)] true

/-- A report and its log as arrays of their fields. -/
def diskReportText : String :=
  "[\"web1\",\x7b\x7d,[[\"err\",\"disk full\",\"sdb\",\"1970-01-01T00:00:00Z\"," ++
    "[\"web\",\"disk\",\"Web\",\"web\"]]]]"

theorem tags_of_logs_are_sets_of_sample :
    let regrouped := ((LogRecord.new .epoch .err "disk full").changeAll
      [.tag "disk", .source "sda", .tags ["Web", "Web"]]).changeAll [.tags ["web"], .source "sdb"]
    LogRecord.readJson .epoch diskRecordText = .ok diskRecord ∧
    diskRecord.HasTagsOf (Json.read diskRecordText).1 ∧
    LogRecord.ofJson .epoch diskRecordDocument = .ok diskRecord ∧
    diskRecord.HasTagsOf diskRecordDocument ∧
    Report.readJson .epoch diskReportText = .ok ⟨"web1", .unknown, [diskRecord]⟩ ∧
    List.Forall₂ (fun v (log : LogRecord) => log.HasTagsOf v)
      (Report.logDocuments (Json.read diskReportText).1) [diskRecord] ∧
    regrouped.HasTags ["disk", "Web", "Web", "web"] ∧
    diskRecord = regrouped ∧ diskRecord.writeJson = regrouped.writeJson ∧
    ∀ (engine : Engine) (schedule : Schedule) (rules : List Rule) (before after : List LogRecord),
      routeWith engine schedule rules (before ++ diskRecord :: after) =
        routeWith engine schedule rules (before ++ regrouped :: after) := by
  intro regrouped
  obtain ⟨hnew, htext, hvalue, hreport, hchanged, hsame⟩ := tags_of_logs_are_sets
  have hreads : LogRecord.readJson .epoch diskRecordText = .ok diskRecord := by decide +kernel
  have hdecodes : LogRecord.ofJson .epoch diskRecordDocument = .ok diskRecord := by decide +kernel
  have hloads : Report.readJson .epoch diskReportText = .ok ⟨"web1", .unknown, [diskRecord]⟩ := by
    decide +kernel
  have hregrouped := hchanged _ _ [.tags ["web"], .source "sdb"] (hnew .epoch .err "disk full"
    [.tag "disk", .source "sda", .tags ["Web", "Web"]]).1
  have hgiven : ∀ t, t ∈ ["web", "disk", "Web", "disk"] ↔ t ∈ ["disk", "Web", "Web", "web"] := by
    intro t
    simp only [List.mem_cons, List.not_mem_nil, or_false]
    tauto
  refine ⟨hreads, htext _ _ _ hreads, hdecodes, hvalue _ _ _ hdecodes, hloads,
    hreport _ _ _ hloads, hregrouped, ?_⟩
  exact hsame diskRecord regrouped _ _ (hnew _ _ _ _).1 hregrouped hgiven rfl rfl rfl rfl

end ReportRouting
