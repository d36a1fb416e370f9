import ReportRouting.Failure
import ReportRouting.Proofs.LineByLine
import ReportRouting.Proofs.LineFaults
import ReportRouting.Proofs.QuotedText

/-!
What is said about a malformed rule.

The message names the line by its number, quotes it, and gives the reason. The line comes from a
file that anyone may have written, so it may look like a message itself, or hold characters that
would begin another line of a log. Neither does any harm: the message is one line without control
characters, and number, line and reason are read back from it, whatever they are.
-/

namespace ReportRouting

open Text

/-! ### Reading a message -/

/-- The parts of the message about a malformed rule, for any reason. -/
structure Complaint where
  line : Nat
  content : String
  reason : String
  deriving DecidableEq, Repr

namespace Complaint

def text (a : Complaint) : String :=
  "Malformed rule on line " ++ toString a.line ++ " (" ++ quoted a.content ++ "): " ++ a.reason

/-- Reads a message from left to right: a number, a quoted text, and the reason up to the end. -/
def read? (s : String) : Option Complaint := do
  let s ← "Malformed rule on line ".toList.isPrefixOf? s.toList
  let number := s.takeWhile Char.isDigit
  let s ← " (".toList.isPrefixOf? (s.dropWhile Char.isDigit)
  let (content, s) ← takeQuoted? s
  let reason ← "): ".toList.isPrefixOf? s
  return ⟨ofDigits number, String.ofList content, String.ofList reason⟩

theorem toList_text (a : Complaint) :
    a.text.toList = "Malformed rule on line ".toList ++ (digits a.line ++ (" (".toList ++
      (quotedChars a.content.toList ++ ("): ".toList ++ a.reason.toList)))) := by
  have hnumber : (toString a.line).toList = digits a.line := Nat.toList_repr
  show ("Malformed rule on line " ++ toString a.line ++ " (" ++ quoted a.content ++ "): " ++
    a.reason).toList = _
  simp only [String.toList_append, hnumber, toList_quoted, List.append_assoc]

/-- Whatever the line and the reason are, they are read back with the number. -/
theorem read?_text (a : Complaint) : read? a.text = some a := by
  have hdigits : ∀ c ∈ digits a.line, c.isDigit = true := fun c hc => isDigit_of_mem_digits hc
  have hopen : " (".toList = [' ', '('] := by decide +kernel
  have hspace : ¬(' '.isDigit = true) := by decide
  have hprefix : ∀ word rest : List Char, word.isPrefixOf? (word ++ rest) = some rest :=
    fun word rest => List.isPrefixOf?_eq_some_iff_append_eq.2 rfl
  have htakes : ∀ rest, (digits a.line ++ (" (".toList ++ rest)).takeWhile Char.isDigit =
      digits a.line := by
    intro rest
    rw [List.takeWhile_append_of_pos hdigits, hopen, List.cons_append,
      List.takeWhile_cons_of_neg hspace, List.append_nil]
  have hleaves : ∀ rest, (digits a.line ++ (" (".toList ++ rest)).dropWhile Char.isDigit =
      " (".toList ++ rest := by
    intro rest
    rw [List.dropWhile_append_of_pos hdigits, hopen, List.cons_append,
      List.dropWhile_cons_of_neg hspace]
  rw [read?, toList_text]
  simp only [Option.bind_eq_bind, Option.bind_some, Option.pure_def, hprefix, htakes, hleaves,
    takeQuoted?_quotedChars, ofDigits_digits, String.ofList_toList]

theorem text_inj {a b : Complaint} : a.text = b.text ↔ a = b := by
  refine ⟨fun h => ?_, congrArg text⟩
  have hread := a.read?_text
  rw [h, read?_text] at hread
  exact (Option.some.inj hread).symm

end Complaint

/-! ### Reasons -/

namespace RuleFault

/-- How the reason of a fault begins. -/
def opening : RuleFault → String
  | noSeparator => "miss"
  | noRecipients => "no r"
  | noTags => "empt"
  | invalidTag _ => "inva"
  | negatedWildcard => "the "
  | noPositiveTag => "no p"

theorem toList_reason_invalidTag (entry : String) :
    (invalidTag entry).reason.toList = "invalid tag ".toList ++ quotedChars entry.toList := by
  show ("invalid tag " ++ quoted entry).toList = _
  rw [String.toList_append, toList_quoted]

theorem take_toList_reason (f : RuleFault) : f.reason.toList.take 4 = f.opening.toList := by
  cases f with
  | invalidTag entry =>
      have hlong : 4 ≤ "invalid tag ".toList.length := by decide +kernel
      have htake : "invalid tag ".toList.take 4 = "inva".toList := by decide +kernel
      rw [toList_reason_invalidTag, List.take_append_of_le_length hlong, htake, opening]
  | _ => decide +kernel

theorem reason_inj {f f' : RuleFault} : f.reason = f'.reason ↔ f = f' := by
  refine ⟨fun h => ?_, congrArg reason⟩
  have hopening : f.opening = f'.opening := by
    rw [← String.toList_inj, ← take_toList_reason, h, take_toList_reason]
  cases f with
  | invalidTag entry =>
      cases f' with
      | invalidTag entry' =>
          have hquoted := congrArg String.toList h
          rw [toList_reason_invalidTag, toList_reason_invalidTag, List.append_cancel_left_eq,
            ← toList_quoted, ← toList_quoted, String.toList_inj, quoted_inj] at hquoted
          rw [hquoted]
      | _ => simp [opening] at hopening
  | _ => cases f' <;> simp [opening] at hopening ⊢

theorem isSeen_of_mem_reason {f : RuleFault} {c : Char} (h : c ∈ f.reason.toList) :
    isSeen c = true := by
  revert c
  cases f with
  | invalidTag entry =>
      intro c h
      rw [toList_reason_invalidTag, List.mem_append] at h
      rcases h with h | h
      · have hword : "invalid tag ".toList.all isSeen = true := by decide +kernel
        exact List.all_eq_true.1 hword c h
      · exact isSeen_of_mem_quotedChars h
  | _ => exact fun {c} => List.all_eq_true.1 (by decide +kernel) c

end RuleFault

/-! ### Messages -/

/-- The control characters. -/
def IsControl (c : Char) : Prop :=
  c.toNat < 0x20 ∨ 0x7F ≤ c.toNat ∧ c.toNat < 0xA0

theorem not_isControl_of_isSeen {c : Char} (h : isSeen c = true) : ¬IsControl c := by
  intro hcontrol
  rw [isSeen_of_control hcontrol] at h
  cases h

namespace MalformedRule

def complaint (e : MalformedRule) : Complaint :=
  ⟨e.line, e.content, e.fault.reason⟩

theorem message_eq (e : MalformedRule) : e.message = e.complaint.text := rfl

theorem isSeen_of_mem_message {e : MalformedRule} {c : Char} (h : c ∈ e.message.toList) :
    isSeen c = true := by
  have hhead : "Malformed rule on line ".toList.all isSeen = true := by decide +kernel
  have hopen : " (".toList.all isSeen = true := by decide +kernel
  have hclose : "): ".toList.all isSeen = true := by decide +kernel
  rw [message_eq, Complaint.toList_text] at h
  simp only [List.mem_append] at h
  rcases h with h | h | h | h | h | h
  · exact List.all_eq_true.1 hhead c h
  · exact isSeen_of_isDigit (isDigit_of_mem_digits h)
  · exact List.all_eq_true.1 hopen c h
  · exact isSeen_of_mem_quotedChars h
  · exact List.all_eq_true.1 hclose c h
  · exact e.fault.isSeen_of_mem_reason h

theorem message_inj {e e' : MalformedRule} : e.message = e'.message ↔ e = e' := by
  refine ⟨fun h => ?_, congrArg message⟩
  have hcomplaint : e.complaint = e'.complaint := Complaint.text_inj.1 h
  obtain ⟨hline, hcontent, hreason⟩ := Complaint.mk.inj hcomplaint
  have hfault := RuleFault.reason_inj.1 hreason
  cases e
  cases e'
  rw [MalformedRule.mk.injEq]
  exact ⟨hline, hcontent, hfault⟩

theorem lines_message (e : MalformedRule) : lines e.message.toList = [e.message.toList] := by
  have hnewline : '\n' ∉ e.message.toList := by
    intro h
    have hseen := isSeen_of_mem_message h
    revert hseen
    decide
  rw [lines_of_not_mem hnewline, message_eq, Complaint.toList_text]
  rfl

end MalformedRule

/-- The message about a file that is refused is a single line without control characters. It gives
the number of a line of the file, the line as it stands there, and the reason, all of which are read
back from the message. Whatever they are and whoever chose the reason, two messages are the same
only if number, line and reason are, and the reason tells the fault. -/
theorem faulty_line_is_told_by_message :
    (∀ (text : String) (e : MalformedRule), readRules text = .error e →
      let message := (Failure.malformedRule e).message
      (∀ c ∈ message.toList, ¬IsControl c) ∧ lines message.toList = [message.toList] ∧
      ∃ earlier line later, lines text.toList = earlier ++ line :: later ∧
        Complaint.read? message =
          some ⟨earlier.length + 1, String.ofList line, e.fault.reason⟩) ∧
    (∀ a b : Complaint, Complaint.read? a.text = some a ∧ (a ≠ b → a.text ≠ b.text)) ∧
    ∀ e e' : MalformedRule, (Failure.malformedRule e).message = e.complaint.text ∧
      ((Failure.malformedRule e).message = (Failure.malformedRule e').message ↔ e = e') := by
  refine ⟨?_, fun a b => ?_, fun e e' => ?_⟩
  · intro text e h message
    obtain ⟨earlier, line, later, hlines, hblames⟩ := readRules_eq_error_iff.1 h
    have hread : Complaint.read? message = some ⟨e.line, e.content, e.fault.reason⟩ :=
      e.complaint.read?_text
    rw [hblames.number, hblames.content] at hread
    exact ⟨fun c hc => not_isControl_of_isSeen (MalformedRule.isSeen_of_mem_message hc),
      e.lines_message, earlier, line, later, hlines, hread⟩
  · exact ⟨a.read?_text, fun hne htext => hne (Complaint.text_inj.1 htext)⟩
  · exact ⟨e.message_eq, MalformedRule.message_inj⟩

/-- The second line ends the quotes, clears a terminal and goes on as a message of its own. -/
def disguisedFile : String :=
  "ops@site: all\nx\"): no\r\x1b[2K\\: fan, \"\\\x07\"\x00\r\nops@site"

def disguisedError : MalformedRule :=
  ⟨2, "x\"): no\r\x1b[2K\\: fan, \"\\\x07\"\x00", .invalidTag "no\r\x1b[2K\\: fan"⟩

theorem faulty_line_is_told_by_message_of_sample :
    let message := (Failure.malformedRule disguisedError).message
    readRules disguisedFile = .error disguisedError ∧
    message = "Malformed rule on line 2 (\"x\\\"): no\\r\\u\x7b1b\x7d[2K\\\\: fan, " ++
      "\\\"\\\\\\u\x7b7\x7d\\\"\\0\"): invalid tag \"no\\r\\u\x7b1b\x7d[2K\\\\: fan\"" ∧
    (∀ c ∈ message.toList, ¬IsControl c) ∧
    (∃ earlier line later, lines disguisedFile.toList = earlier ++ line :: later ∧
      Complaint.read? message =
        some ⟨earlier.length + 1, String.ofList line, disguisedError.fault.reason⟩) ∧
    message ≠ (Failure.malformedRule ⟨2, disguisedError.content, .noRecipients⟩).message := by
  intro message
  have hread : readRules disguisedFile = .error disguisedError := by decide +kernel
  obtain ⟨hrefused, -, hpairs⟩ := faulty_line_is_told_by_message
  obtain ⟨hcontrol, -, hline⟩ := hrefused disguisedFile disguisedError hread
  refine ⟨hread, by decide +kernel, hcontrol, hline, fun hmessage => ?_⟩
  exact absurd ((hpairs disguisedError _).2.1 hmessage) (by decide)

end ReportRouting
