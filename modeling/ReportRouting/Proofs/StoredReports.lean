import ReportRouting.Proofs.JsonText
import ReportRouting.Proofs.TimeText
import ReportRouting.Report.FromYaml

/-!
Reports in store.

A report is stored as a JSON document and is read back as it was: its texts with every character,
its counters with all 64 bits, its times to the nanosecond, its tags as the set they are. So
storing loses nothing of a report, wherever it came from.
-/

namespace ReportRouting

namespace Json

/-! ### Single values -/

theorem le_ofDigitChars (n : Nat) (ds : List Char) : n ≤ Nat.ofDigitChars 10 ds n := by
  rw [Nat.ofDigitChars_eq_ofDigitChars_zero]
  exact Nat.le_add_right_of_le (Nat.le_mul_of_pos_left n (Nat.pow_pos (by decide)))

theorem appendDigits_of_lt {ds : List Char} :
    ∀ {n : Nat}, Nat.ofDigitChars 10 ds n < UInt64.size →
      appendDigits n ds = (Nat.ofDigitChars 10 ds n, 0) := by
  induction ds with
  | nil => exact fun {n} _ => by rw [appendDigits, Nat.ofDigitChars_nil]
  | cons c ds ih =>
      intro n h
      rw [Nat.ofDigitChars_cons] at h ⊢
      rw [appendDigits, if_pos (Nat.lt_of_le_of_lt (le_ofDigitChars _ ds) h), ih h]

theorem numberValue_ofNat {n : Nat} (h : n < UInt64.size) :
    numberValue (.ofNat n) = .unsigned n := by
  have happend : appendDigits 0 (Text.digits n) = (n, 0) := by
    have hvalue : Nat.ofDigitChars 10 (Text.digits n) 0 = n := Text.ofDigits_digits n
    rw [appendDigits_of_lt (by rwa [hvalue]), hvalue]
  simp only [numberValue, Numeral.ofNat, happend]
  rfl

theorem decodeCount_ofNat (n : UInt64) : decodeCount (.number (.ofNat n.toNat)) = .ok n := by
  simp only [decodeCount, numberValue_ofNat n.toNat_lt_size, UInt64.ofNat_toNat]

theorem decodeSequence_map {α : Type} {decode : Json → Decoded α} {encode : α → Json}
    (h : ∀ a, decode (encode a) = .ok a) (as : List α) :
    decodeSequence decode (.array (as.map encode) true) = .ok as := by
  have hmap : (as.map encode).mapM decode = .ok as := by
    induction as with
    | nil => rfl
    | cons a as ih => rw [List.map_cons, List.mapM_cons, h, ih]; rfl
  rw [decodeSequence, hmap]
  rfl

theorem isWhole_array_map {α : Type} {encode : α → Json} (h : ∀ a, IsWhole (encode a))
    (as : List α) : IsWhole (.array (as.map encode) true) := by
  refine .array fun v hv => ?_
  obtain ⟨a, -, rfl⟩ := List.mem_map.1 hv
  exact h a

/-! ### Records -/

theorem decodeMembers_cons {δ : Type} {fields : List (Field Decoded Json δ)} {name : String}
    {field : Field Decoded Json δ} {v : Json} {draft draft' : δ}
    {rest : List (Option String × Json)}
    (hfind : fields.find? (·.name == name) = some field) (hset : field.isSet draft = false)
    (hread : field.read v draft = .ok draft') :
    decodeMembers fields ((some name, v) :: rest) draft = decodeMembers fields rest draft' := by
  rw [decodeMembers, hfind]
  simp only [hset, hread]
  rfl

theorem decodeRecord_object {δ α : Type} {shape : Shape Decoded Json δ α} {a : α}
    {members : List (Option String × Json)} (stage : Stage) (draft : δ)
    (hmembers : decodeMembers shape.fields members shape.empty = .ok draft)
    (hfinish : shape.finish draft = .ok a) :
    decodeRecord stage shape (.object members true) = .ok a := by
  rw [decodeRecord, hmembers]
  show (if true then finishRecord shape draft else unreadable) = .ok a
  rw [if_pos rfl, finishRecord, hfinish]

theorem read_of {β δ : Type} {name : String} {get : δ → Option β} {set : β → δ → δ}
    {read : Json → Decoded β} {v : Json} {b : β} (h : read v = .ok b) (draft : δ) :
    (Field.of name get set read).read v draft = .ok (set b draft) := by
  simp only [Field.of, h]
  rfl

end Json

open Json

/-! ### Log records -/

theorem named_name (level : Level) : named Level.named level.name = .ok level := by
  cases level <;> rfl

theorem LogRecord.isWhole_toJson (r : LogRecord) : IsWhole r.toJson := by
  refine IsWhole.object [("level", .text r.level.name), ("message", .text r.message),
    ("source", .text r.source), ("time", .text r.time.zuluText),
    ("tags", .array (r.tags.names.map .text) true)] ?_
  simp [IsWhole.text, isWhole_array_map IsWhole.text]

theorem LogRecord.decodeRecord_toJson (stage : Stage) (now : Instant) (r : LogRecord) :
    decodeRecord stage (LogRecord.shape (format stage) now) r.toJson = .ok r := by
  have htext : ∀ s, (format stage).text (.text s) = .ok s := fun _ => rfl
  have hlevel : (format stage).choice Level.named (.text r.level.name) = .ok r.level := by
    cases stage <;> exact named_name r.level
  have htime : (format stage).parsed "an RFC 3339 formatted date and time string" Instant.read
      (.text r.time.zuluText) = .ok r.time := by
    simp only [format, decodeParsed, Instant.read_zuluText]
  have htags : ((format stage).sequence (format stage).text
        (.array (r.tags.names.map .text) true) >>= fun names => pure (TagSet.ofList names)) =
      (.ok r.tags : Decoded TagSet) := by
    have hnames := decodeSequence_map htext r.tags.names
    show (decodeSequence (format stage).text (.array (r.tags.names.map .text) true) >>= _) = _
    rw [hnames]
    exact congrArg Except.ok r.tags.ofList_names
  refine decodeRecord_object stage
    ⟨some r.level, some r.message, some r.source, some r.time, some r.tags⟩ ?_ rfl
  rw [decodeMembers_cons rfl rfl (read_of hlevel _),
    decodeMembers_cons rfl rfl (read_of (htext r.message) _),
    decodeMembers_cons rfl rfl (read_of (htext r.source) _),
    decodeMembers_cons rfl rfl (read_of htime _),
    decodeMembers_cons rfl rfl (read_of htags _), decodeMembers]

/-! ### Reports -/

theorem isWhole_counterToJson (n : Option UInt64) : IsWhole (Report.counterToJson n) := by
  cases n with
  | none => exact .null
  | some n => exact .number (isProper_ofNat n.toNat)

theorem Report.isWhole_toJson (r : Report) : IsWhole r.toJson := by
  have hcounters := IsWhole.object [("out_of_sync", counterToJson r.counters.outOfSync),
    ("changed", counterToJson r.counters.changed)] (by simp [isWhole_counterToJson])
  have hmetrics := IsWhole.object [("resources", _)] (by simpa using hcounters)
  have hlogs := isWhole_array_map LogRecord.isWhole_toJson r.logs
  exact IsWhole.object [("host", .text r.host), ("metrics", _), ("logs", _)]
    (by simpa [IsWhole.text] using ⟨hmetrics, hlogs⟩)

theorem decodeOptional_counterToJson (n : Option UInt64) :
    decodeOptional decodeCount (Report.counterToJson n) = .ok n := by
  cases n with
  | none => rfl
  | some n =>
      show (decodeCount (.number (.ofNat n.toNat)) >>= fun n => pure (some n)) = .ok (some n)
      rw [decodeCount_ofNat]
      rfl

theorem Report.decodeRecord_counters (stage : Stage) (c : Counters) :
    decodeRecord stage (countersShape (format stage)) (.object [
      (some "out_of_sync", counterToJson c.outOfSync),
      (some "changed", counterToJson c.changed)] true) = .ok c := by
  refine decodeRecord_object stage ⟨some c.outOfSync, some c.changed⟩ ?_ rfl
  rw [decodeMembers_cons rfl rfl (read_of (decodeOptional_counterToJson _) _),
    decodeMembers_cons rfl rfl (read_of (decodeOptional_counterToJson _) _), decodeMembers]

theorem Report.decodeRecord_toJson (stage : Stage) (now : Instant) (r : Report) :
    decodeRecord stage (Report.shape (format stage) now) r.toJson = .ok r := by
  have hcounters := decodeRecord_counters stage r.counters
  have hmetrics : decodeRecord stage (metricsShape (format stage)) (.object [(some "resources",
      .object [(some "out_of_sync", counterToJson r.counters.outOfSync),
        (some "changed", counterToJson r.counters.changed)] true)] true) = .ok r.counters := by
    refine decodeRecord_object stage ⟨some r.counters⟩ ?_ rfl
    rw [decodeMembers_cons rfl rfl (read_of hcounters _), decodeMembers]
  have htext : (format stage).text (.text r.host) = .ok r.host := rfl
  have hlogs := decodeSequence_map (fun log => log.decodeRecord_toJson stage now) r.logs
  refine decodeRecord_object stage ⟨some r.host, some r.counters, some r.logs⟩ ?_ rfl
  rw [decodeMembers_cons rfl rfl (read_of htext _), decodeMembers_cons rfl rfl (read_of hmetrics _),
    decodeMembers_cons rfl rfl (read_of hlogs _), decodeMembers]

theorem Report.read_writeJson (r : Report) : Json.read r.writeJson = (r.toJson, true) :=
  read_render r.isWhole_toJson

theorem Report.readJson_writeJson (now : Instant) (r : Report) :
    Report.readJson now r.writeJson = .ok r := by
  rw [readJson, r.read_writeJson, ofText]
  show (decodeRecord .text (Report.shape (format .text) now) r.toJson >>= fun a => pure a) = .ok r
  rw [r.decodeRecord_toJson .text now]
  rfl

theorem Report.load_writeJson {path : String} (hpath : extension? path = some "json")
    (now : Instant) (r : Report) :
    Report.load now path (.contents (Text.bytesOf r.writeJson.toList)) = .ok r := by
  have htext : FileState.readText (.contents (Text.bytesOf r.writeJson.toList)) =
      .ok r.writeJson := by
    rw [FileState.readText, Text.text?_bytesOf, String.ofList_toList]
  rw [load, htext]
  show (if extension? path = some "json" then (readJson now r.writeJson).mapError Failure.json
    else (readYaml now r.writeJson).mapError Failure.yaml) = .ok r
  rw [if_pos hpath, readJson_writeJson]
  rfl

/-- The text that a report is stored as is one document, with nothing behind it. The report is read
back from it as it was, and the text is written again as it was. So a report that was loaded from a
file, stored and loaded again is what the first loading gave. -/
theorem stored_report_is_read_back (now : Instant) :
    (∀ r : Report, Json.read r.writeJson = (r.toJson, true) ∧
      Report.readJson now r.writeJson = .ok r ∧
      (Report.readJson now r.writeJson).map Report.writeJson = .ok r.writeJson) ∧
    (∀ (earlier : Instant) (path : String) (file : FileState) (store : String),
      extension? store = some "json" →
        (Report.load earlier path file >>= fun r =>
          Report.load now store (.contents (Text.bytesOf r.writeJson.toList))) =
            Report.load earlier path file) := by
  refine ⟨fun r => ⟨r.read_writeJson, r.readJson_writeJson now, ?_⟩,
    fun earlier path file store hstore => ?_⟩
  · rw [r.readJson_writeJson now]
    rfl
  · have hload : ∀ r : Report, Report.load now store (.contents (Text.bytesOf r.writeJson.toList)) =
        .ok r := fun r => r.load_writeJson hstore now
    simp only [hload]
    cases Report.load earlier path file with
    | error f => rfl
    | ok r => rfl

/-- The leap second keeps its number, and its fraction has as many digits as it needs. -/
example : ((LogRecord.new ⟨⟨-1, 6, 30, by decide⟩, ⟨23, 59, 60, 250000000, by decide⟩⟩ .err
      "\"disk\"\x01").withTags ["web", "disk"]).writeJson =
    "\x7b\"level\":\"err\",\"message\":\"\\\"disk\\\"\\u0001\",\"source\":\"\"," ++
      "\"time\":\"-0001-06-30T23:59:60.250Z\",\"tags\":[\"disk\",\"web\"]\x7d" := by
  decide +kernel

end ReportRouting
