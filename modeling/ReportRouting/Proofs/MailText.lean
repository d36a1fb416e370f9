import ReportRouting.Mail.Message

/-!
The lines of the headers.

The headers of a message are four lines, none of them empty, whatever the values are: a value has no
line end of its own left, and the date never had one.
-/

namespace ReportRouting

open Text

/-! ### Text on one line -/

namespace Text

def OnOneLine (s : List Char) : Prop :=
  ∀ c ∈ s, c ≠ '\r' ∧ c ≠ '\n'

theorem onOneLine_append {s t : List Char} :
    OnOneLine (s ++ t) ↔ OnOneLine s ∧ OnOneLine t :=
  List.forall_mem_append

theorem onOneLine_cons {c : Char} {s : List Char} :
    OnOneLine (c :: s) ↔ (c ≠ '\r' ∧ c ≠ '\n') ∧ OnOneLine s :=
  List.forall_mem_cons

theorem onOneLine_of_isDigit {s : List Char} (h : ∀ c ∈ s, c.isDigit = true) : OnOneLine s := by
  intro c hc
  have hdigit := h c hc
  constructor <;> rintro rfl <;> exact absurd hdigit (by decide)

theorem onOneLine_digits (n : Nat) : OnOneLine (digits n) :=
  onOneLine_of_isDigit fun _ => isDigit_of_mem_digits

theorem onOneLine_padded (width n : Nat) : OnOneLine (padded width n) :=
  onOneLine_of_isDigit fun _ => isDigit_of_mem_padded

theorem OnOneLine.newline_not_mem {s : List Char} (h : OnOneLine s) : '\n' ∉ s :=
  fun hmem => (h '\n' hmem).2 rfl

instance (s : List Char) : Decidable (OnOneLine s) :=
  List.decidableBAll (fun c => c ≠ '\r' ∧ c ≠ '\n') s

end Text

/-! ### Headers -/

theorem onOneLine_headerValue (s : String) : OnOneLine (headerValue s) := by
  intro c hc
  obtain ⟨d, _, rfl⟩ := List.mem_map.1 hc
  rw [headerChar]
  split
  case isTrue => decide
  case isFalse h => exact not_or.1 h

/-- A name from a list of names, or nothing. -/
theorem onOneLine_getD (names : List String) (h : ∀ name ∈ names, OnOneLine name.toList) (i : Nat) :
    OnOneLine (names.getD i "").toList := by
  rw [List.getD_eq_getElem?_getD]
  cases hname : names[i]? with
  | none => exact List.forall_mem_nil _
  | some name => exact h name (List.mem_of_getElem? hname)

theorem onOneLine_yearText (year : Int) : OnOneLine (yearText year) := by
  rw [yearText]
  split
  · exact onOneLine_padded _ _
  · refine onOneLine_cons.2 ⟨?_, onOneLine_padded _ _⟩
    split <;> decide

theorem Clock.onOneLine_text (c : Clock) : OnOneLine c.text := by
  simp only [Clock.text, onOneLine_append, onOneLine_cons, onOneLine_padded, and_true, true_and]
  decide

theorem onOneLine_aheadText (ahead : Int) : OnOneLine (aheadText ahead) := by
  rw [aheadText]
  refine onOneLine_append.2 ⟨onOneLine_cons.2 ⟨?_, onOneLine_padded _ _⟩, onOneLine_padded _ _⟩
  split <;> decide

theorem Stamp.onOneLine_mailText (s : Stamp) : OnOneLine s.mailText.toList := by
  have hweekday := onOneLine_getD weekdayNames (by decide) s.date.weekday
  have hmonth := onOneLine_getD monthNames (by decide) (s.date.month - 1)
  simp only [Stamp.mailText, String.toList_ofList, onOneLine_append, onOneLine_cons, hweekday,
    hmonth, onOneLine_digits, onOneLine_yearText, Clock.onOneLine_text, onOneLine_aheadText,
    and_true, true_and]
  decide

/-- The lines of the headers, with neither a carriage return nor a newline in them. -/
def Message.headerLines (m : Message) : List (List Char) := [
  "From: ".toList ++ headerValue m.sender,
  "Subject: ".toList ++ headerValue m.subject,
  "To: ".toList ++ headerValue (", ".intercalate m.recipients),
  "Date: ".toList ++ m.date.mailText.toList]

namespace Message

theorem headers_eq_flatMap (m : Message) :
    m.headers = m.headerLines.flatMap fun line => line ++ ['\n'] := by
  simp [headers, headerLines, headerLine]

theorem forall_mem_headerLines (m : Message) :
    ∀ line ∈ m.headerLines, line ≠ [] ∧ OnOneLine line := by
  have hline : ∀ {name value : List Char}, name ≠ [] → OnOneLine name → OnOneLine value →
      name ++ value ≠ [] ∧ OnOneLine (name ++ value) := fun hne hname hvalue =>
    ⟨List.append_ne_nil_of_left_ne_nil hne _, onOneLine_append.2 ⟨hname, hvalue⟩⟩
  simp only [headerLines, List.forall_mem_cons]
  exact ⟨hline (by decide) (by decide) (onOneLine_headerValue _),
    hline (by decide) (by decide) (onOneLine_headerValue _),
    hline (by decide) (by decide) (onOneLine_headerValue _),
    hline (by decide) (by decide) m.date.onOneLine_mailText, List.forall_mem_nil _⟩

end Message

end ReportRouting
