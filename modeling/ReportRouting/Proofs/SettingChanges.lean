import ReportRouting.Mail.Delivery
import ReportRouting.Proofs.Trimming

/-!
What changes make of settings.

Settings have ten fields, and `Change.sets?` says which of them a change gives a value to. Whatever
changes are made, a field has the value that the last change of it gave, or the one it had before
any change; so changes of different fields can be swapped. A timeout is never zero in this way,
and three faults are left that settings can have.
-/

namespace ReportRouting.Settings

open Text

inductive Field where
  | ruleFile
  | parallel
  | minRules
  | smtpServer
  | smtpPort
  | smtpHelo
  | program
  | sender
  | subjectPrefix
  | timeout
  deriving DecidableEq, Repr

def Field.Value : Field → Type
  | ruleFile | smtpHelo | sender | subjectPrefix => String
  | smtpServer | program => Option String
  | parallel => Bool
  | smtpPort => UInt16
  | minRules | timeout => UInt64

def get (s : Settings) : (f : Field) → f.Value
  | .ruleFile => s.ruleFile
  | .parallel => s.engine.parallel
  | .minRules => s.engine.minRules
  | .smtpServer => s.delivery.smtpServer
  | .smtpPort => s.delivery.smtpPort
  | .smtpHelo => s.delivery.smtpHelo
  | .program => s.delivery.program
  | .sender => s.delivery.sender
  | .subjectPrefix => s.delivery.subjectPrefix
  | .timeout => s.delivery.timeout

/-- The value that a change gives to a field. It gives none to most of them. -/
def Change.sets? : Change → (f : Field) → Option f.Value
  | .ruleFile path, .ruleFile => some path
  | .engine e, .parallel => some e.parallel
  | .engine e, .minRules => some e.minRules
  | .parallel on, .parallel => some on
  | .minRules n, .minRules => some n
  | .smtpServer server, .smtpServer => some (some server)
  | .smtpPort port, .smtpPort => some port
  | .smtpHelo name, .smtpHelo => some name
  | .program path, .program => some (some path)
  | .noProgram, .program => some none
  | .sender address, .sender => some address
  | .subjectPrefix text, .subjectPrefix => some text
  | .timeout span, .timeout => some (max span.seconds 1 : UInt64)
  | _, _ => none

variable {s s' : Settings} {c c' : Change} {f : Field} {changes : List Change}

/-- Settings have no more than their fields. -/
theorem ext_get (h : ∀ f, s.get f = s'.get f) : s = s' := by
  obtain ⟨ruleFile, ⟨parallel, minRules⟩,
    ⟨server, port, helo, program, sender, subject, timeout⟩⟩ := s
  obtain rfl := h .ruleFile
  obtain rfl := h .parallel
  obtain rfl := h .minRules
  obtain rfl := h .smtpServer
  obtain rfl := h .smtpPort
  obtain rfl := h .smtpHelo
  obtain rfl := h .program
  obtain rfl := h .sender
  obtain rfl := h .subjectPrefix
  obtain rfl := h .timeout
  rfl

/-! ### One change -/

/-- A change gives its value to the fields that it sets and leaves the others. -/
theorem get_change (s : Settings) (c : Change) (f : Field) :
    (s.change c).get f = (c.sets? f).getD (s.get f) := by
  cases c <;> cases f <;> rfl

theorem get_change_of_unset (h : c.sets? f = none) : (s.change c).get f = s.get f := by
  rw [get_change, h, Option.getD_none]

theorem change_comm (h : ∀ f, c.sets? f = none ∨ c'.sets? f = none) :
    (s.change c).change c' = (s.change c').change c := by
  apply ext_get
  intro f
  rcases h f with hunset | hunset
  · rw [get_change, get_change_of_unset hunset, get_change_of_unset hunset, get_change]
  · rw [get_change_of_unset hunset, get_change, get_change, get_change_of_unset hunset]

theorem one_le_timeout_change (h : 1 ≤ s.delivery.timeout) (c : Change) :
    1 ≤ (s.change c).delivery.timeout := by
  cases c with
  | timeout span =>
      show 1 ≤ if span.seconds ≤ 1 then 1 else span.seconds
      split
      case isTrue => exact UInt64.le_refl 1
      case isFalse hlt => exact UInt64.le_of_lt (UInt64.not_le.1 hlt)
  | _ => exact h

/-! ### Runs of changes -/

theorem changeAll_cons (s : Settings) (c : Change) (changes : List Change) :
    s.changeAll (c :: changes) = (s.change c).changeAll changes :=
  List.foldl_cons

theorem changeAll_append (s : Settings) (before after : List Change) :
    s.changeAll (before ++ after) = (s.changeAll before).changeAll after :=
  List.foldl_append

theorem get_changeAll_of_unset (h : ∀ c ∈ changes, c.sets? f = none) :
    (s.changeAll changes).get f = s.get f := by
  induction changes generalizing s with
  | nil => rfl
  | cons c changes ih =>
      obtain ⟨hc, hchanges⟩ := List.forall_mem_cons.1 h
      rw [changeAll_cons, ih hchanges, get_change_of_unset hc]

/-- The last change of a field is the one that counts. -/
theorem get_changeAll_of_last {before after : List Change} {v : f.Value} (hc : c.sets? f = some v)
    (hafter : ∀ later ∈ after, later.sets? f = none) :
    (s.changeAll (before ++ c :: after)).get f = v := by
  rw [changeAll_append, changeAll_cons, get_changeAll_of_unset hafter, get_change, hc,
    Option.getD_some]

theorem changeAll_swap (h : ∀ f, c.sets? f = none ∨ c'.sets? f = none)
    (before after : List Change) :
    s.changeAll (before ++ c :: c' :: after) = s.changeAll (before ++ c' :: c :: after) := by
  rw [changeAll_append, changeAll_append, changeAll_cons, changeAll_cons, changeAll_cons,
    changeAll_cons, change_comm h]

theorem one_le_timeout_changeAll (h : 1 ≤ s.delivery.timeout) (changes : List Change) :
    1 ≤ (s.changeAll changes).delivery.timeout := by
  induction changes generalizing s with
  | nil => exact h
  | cons c changes ih => exact ih (one_le_timeout_change h c)

/-! ### Faults that are left -/

/-- The settings have the fault. -/
def HasFault (s : Settings) : SettingsFault → Prop
  | .zeroPort => s.delivery.smtpPort = 0
  | .zeroTimeout => s.delivery.timeout = 0
  | .blankSender => AllBlank s.delivery.sender.toList
  | .blankServer => ∃ server ∈ s.delivery.smtpServer, AllBlank server.toList

theorem not_hasFault_zeroTimeout (h : 1 ≤ s.delivery.timeout) : ¬s.HasFault .zeroTimeout := by
  intro hzero
  have hle : (1 : UInt64) ≤ 0 := hzero ▸ h
  exact absurd hle (by decide)

/-- What a check of settings with a timeout can come to. -/
theorem validate_cases (htimeout : 1 ≤ s.delivery.timeout) :
    (s.HasFault .zeroPort ∧ s.validate = .error .zeroPort) ∨
    (¬s.HasFault .zeroPort ∧ s.HasFault .blankSender ∧ s.validate = .error .blankSender) ∨
    (¬s.HasFault .zeroPort ∧ ¬s.HasFault .blankSender ∧ s.HasFault .blankServer ∧
      s.validate = .error .blankServer) ∨
    (¬s.HasFault .zeroPort ∧ ¬s.HasFault .blankSender ∧ ¬s.HasFault .blankServer ∧
      s.validate = .ok ()) := by
  have htimeout : s.delivery.timeout ≠ 0 := not_hasFault_zeroTimeout htimeout
  have hserver : s.HasFault .blankServer ↔ s.delivery.smtpServer.any isBlankText = true := by
    rw [Option.any_eq_true]
    simp only [HasFault, isBlankText_iff, Option.mem_def]
  have hsender : s.HasFault .blankSender ↔ isBlankText s.delivery.sender = true :=
    isBlankText_iff.symm
  rw [hserver, hsender, validate, DeliverySettings.validate, if_neg htimeout]
  split
  case isTrue hport => exact .inl ⟨hport, rfl⟩
  case isFalse hport =>
    refine .inr ?_
    split
    case isTrue hsender => exact .inl ⟨hport, hsender, rfl⟩
    case isFalse hsender =>
      refine .inr ?_
      split
      case isTrue hserver => exact .inl ⟨hport, hsender, hserver, rfl⟩
      case isFalse hserver => exact .inr ⟨hport, hsender, hserver, rfl⟩

/-- Whatever changes are made to the settings of a machine, every field has the value of the last
change that sets it, or the one from before, and changes of different fields can be swapped. The
timeout is never zero. Of the other three faults the first one is reported, in the order of port,
sender and server, and without them the settings are valid. Mails have no way to go if neither a
relay is set, be its name blank, nor a program with a path. -/
theorem last_change_of_field_counts (found : Option String) (changes : List Change) :
    let start := initial found
    let s := start.changeAll changes
    (∀ f : Field,
      (∀ before c after v, changes = before ++ c :: after → c.sets? f = some v →
        (∀ later ∈ after, later.sets? f = none) → s.get f = v) ∧
      ((∀ c ∈ changes, c.sets? f = none) → s.get f = start.get f)) ∧
    (∀ s' : Settings, (∀ f, s'.get f = s.get f) → s' = s) ∧
    (∀ before c c' after, changes = before ++ c :: c' :: after →
      (∀ f, c.sets? f = none ∨ c'.sets? f = none) →
        start.changeAll (before ++ c' :: c :: after) = s) ∧
    1 ≤ s.delivery.timeout ∧
    (s.validate = .ok () ↔
      ¬s.HasFault .zeroPort ∧ ¬s.HasFault .blankSender ∧ ¬s.HasFault .blankServer) ∧
    (s.validate = .error .zeroPort ↔ s.HasFault .zeroPort) ∧
    (s.validate = .error .blankSender ↔ ¬s.HasFault .zeroPort ∧ s.HasFault .blankSender) ∧
    (s.validate = .error .blankServer ↔
      ¬s.HasFault .zeroPort ∧ ¬s.HasFault .blankSender ∧ s.HasFault .blankServer) ∧
    ((∃ fault, s.delivery.transport = .error fault) ↔
      s.delivery.smtpServer = none ∧ ∀ path ∈ s.delivery.program, path = "") := by
  intro start s
  have hstart : 1 ≤ start.delivery.timeout := show (1 : UInt64) ≤ 30 by decide
  have htimeout : 1 ≤ s.delivery.timeout := one_le_timeout_changeAll hstart changes
  refine ⟨fun f => ⟨?_, get_changeAll_of_unset⟩, fun _ => ext_get, ?_, htimeout, ?_⟩
  · rintro before c after v hchanges hc hafter
    show (start.changeAll changes).get f = v
    rw [hchanges, get_changeAll_of_last hc hafter]
  · rintro before c c' after hchanges hdistinct
    show _ = start.changeAll changes
    rw [hchanges, changeAll_swap hdistinct]
  have htransport : (∃ fault, s.delivery.transport = .error fault) ↔
      s.delivery.smtpServer = none ∧ ∀ path ∈ s.delivery.program, path = "" := by
    simp only [DeliverySettings.transport_eq_error_iff, exists_eq_left]
  rcases validate_cases htimeout with ⟨hport, hvalidate⟩ | ⟨hport, hsender, hvalidate⟩ |
    ⟨hport, hsender, hserver, hvalidate⟩ | ⟨hport, hsender, hserver, hvalidate⟩
  all_goals simp [*]

-- Half a second counts as a whole one, and a program without a path as none.
example :
    let s := (initial none).changeAll [.program "mail", .timeout ⟨0, 500000000⟩, .program ""]
    s.delivery.timeout = 1 ∧ s.validate = .ok () ∧
      s.delivery.transport = .error .noTransport := by
  decide +kernel

end ReportRouting.Settings
