import Mathlib.Data.List.Forall2
import ReportRouting.Proofs.MailText

/-!
The text of a message, read.

A reader of mail takes the lines up to the first empty one for headers, and all that stands behind
it for the body. What stands before the first colon of a header is its name, and what stands behind
the blank after it is its value. In the text of a message it finds the four headers that were
written and the body: whatever line ends there are in a value or in the body, no header is added,
lost or cut short by them.
-/

namespace ReportRouting

open Text

/-! ### Head and body -/

/-- The lines of a text before its first empty one, and what stands behind that. Of the first line
some characters may have been read before. -/
def takeHead? (begun : List Char) : List Char → Option (List (List Char) × List Char)
  | [] => none
  | c :: rest =>
    if c = '\n' then
      if begun = [] then some ([], rest)
      else (takeHead? [] rest).map fun (head, body) => (begun :: head, body)
    else takeHead? (begun ++ [c]) rest

theorem takeHead?_append {line : List Char} (h : '\n' ∉ line) (begun rest : List Char) :
    takeHead? begun (line ++ rest) = takeHead? (begun ++ line) rest := by
  induction line generalizing begun with
  | nil => rw [List.nil_append, List.append_nil]
  | cons c line ih =>
      have hc : c ≠ '\n' := Ne.symm (List.ne_of_not_mem_cons h)
      rw [List.cons_append, takeHead?, if_neg hc, ih (List.not_mem_of_not_mem_cons h),
        List.append_assoc, List.singleton_append]

/-- The head of a text is a number of lines, none of them empty, and an empty line ends it. -/
theorem takeHead?_eq_some_iff {text body : List Char} {head : List (List Char)} :
    takeHead? [] text = some (head, body) ↔
      text = head.flatMap (· ++ ['\n']) ++ '\n' :: body ∧
        ∀ line ∈ head, line ≠ [] ∧ '\n' ∉ line := by
  constructor
  · suffices hbegun : ∀ begun, '\n' ∉ begun → takeHead? begun text = some (head, body) →
        begun ++ text = head.flatMap (· ++ ['\n']) ++ '\n' :: body ∧
          ∀ line ∈ head, line ≠ [] ∧ '\n' ∉ line from hbegun [] List.not_mem_nil
    induction text generalizing head with
    | nil => nofun
    | cons c text ih =>
        intro begun hbegun h
        rw [takeHead?] at h
        split_ifs at h with hc hempty
        · cases h
          rw [hempty, hc]
          exact ⟨rfl, List.forall_mem_nil _⟩
        · obtain ⟨⟨later, body'⟩, hlater, hhead⟩ := Option.map_eq_some_iff.1 h
          cases hhead
          obtain ⟨htext, hlines⟩ := ih [] List.not_mem_nil hlater
          rw [hc, List.flatMap_cons, List.append_assoc, ← htext]
          exact ⟨by simp, List.forall_mem_cons.2 ⟨⟨hempty, hbegun⟩, hlines⟩⟩
        · have hmore : '\n' ∉ begun ++ [c] := by
            rw [List.mem_append, List.mem_singleton, not_or]
            exact ⟨hbegun, Ne.symm hc⟩
          obtain ⟨htext, hlines⟩ := ih (begun ++ [c]) hmore h
          exact ⟨by rw [← htext, List.append_assoc, List.singleton_append], hlines⟩
  · rintro ⟨rfl, hlines⟩
    induction head with
    | nil => rfl
    | cons line head ih =>
        obtain ⟨⟨hne, hline⟩, hhead⟩ := List.forall_mem_cons.1 hlines
        rw [List.flatMap_cons, List.append_assoc, List.append_assoc, takeHead?_append hline,
          List.nil_append, List.singleton_append, takeHead?, if_pos rfl, if_neg hne, ih hhead]
        rfl

/-- What stands behind the first empty line of a text. -/
def behindEmptyLine? (text : List Char) : Option (List Char) :=
  (takeHead? [] text).map (·.2)

/-! ### Headers -/

/-- The name of a header and its value. -/
def readHeader? (line : List Char) : Option (List Char × List Char) :=
  match line.dropWhile (· != ':') with
  | ':' :: ' ' :: value => some (line.takeWhile (· != ':'), value)
  | _ => none

theorem readHeader?_append {name : List Char} (h : ':' ∉ name) (value : List Char) :
    readHeader? (name ++ ':' :: ' ' :: value) = some (name, value) := by
  have hname : ∀ c ∈ name, (c != ':') = true := fun c hc =>
    bne_iff_ne.2 fun hcolon => h (hcolon ▸ hc)
  rw [readHeader?, List.dropWhile_append_of_pos hname, List.takeWhile_append_of_pos hname]
  simp

/-- Headers are read as they are written, if their names have no colon. -/
theorem mapM_readHeader?_map {headers : List (List Char × List Char)}
    (h : ∀ header ∈ headers, ':' ∉ header.1) :
    (headers.map fun (name, value) => name ++ ':' :: ' ' :: value).mapM readHeader? =
      some headers := by
  induction headers with
  | nil => rfl
  | cons header headers ih =>
      obtain ⟨hname, hlater⟩ := List.forall_mem_cons.1 h
      rw [List.map_cons, List.mapM_cons, readHeader?_append hname, ih hlater]
      rfl

/-- The headers of a mail, and its body. -/
def readMail? (text : List Char) : Option (List (List Char × List Char) × List Char) :=
  (takeHead? [] text).bind fun (head, body) => (head.mapM readHeader?).map fun headers =>
    (headers, body)

/-- A value as it stands in a header: a space counts for each carriage return and each newline. -/
def StandsInHeader (value written : List Char) : Prop :=
  List.Forall₂ (fun c d => d = if c = '\r' ∨ c = '\n' then ' ' else c) value written

theorem standsInHeader_headerValue (s : String) : StandsInHeader s.toList (headerValue s) := by
  rw [StandsInHeader, headerValue, List.forall₂_map_right_iff, List.forall₂_same]
  exact fun _ _ => rfl

/-! ### Messages -/

theorem Stamp.mailText_ne_nil (s : Stamp) : s.mailText.toList ≠ [] := by
  rw [mailText, String.toList_ofList]
  exact List.append_ne_nil_of_right_ne_nil _ (List.cons_ne_nil _ _)

namespace Message

theorem endLine_eq_append (s : List Char) :
    endLine s = s ++ if s.getLast? = some '\n' then [] else ['\n'] := by
  rw [endLine]
  split
  · rw [List.append_nil]
  · rfl

theorem text_eq_append (m : Message) :
    m.text = m.headerLines.flatMap (· ++ ['\n']) ++ '\n' :: endLine m.body.toList := by
  rw [text, headers_eq_flatMap]

theorem takeHead?_text (m : Message) :
    takeHead? [] m.text = some (m.headerLines, endLine m.body.toList) := by
  refine takeHead?_eq_some_iff.2 ⟨m.text_eq_append, fun line hline => ?_⟩
  obtain ⟨hne, hone⟩ := m.forall_mem_headerLines line hline
  exact ⟨hne, hone.newline_not_mem⟩

theorem behindEmptyLine?_text (m : Message) :
    behindEmptyLine? m.text = some (endLine m.body.toList) := by
  rw [behindEmptyLine?, takeHead?_text, Option.map_some]

theorem mapM_readHeader?_headerLines (m : Message) :
    m.headerLines.mapM readHeader? = some [("From".toList, headerValue m.sender),
      ("Subject".toList, headerValue m.subject),
      ("To".toList, headerValue (", ".intercalate m.recipients)),
      ("Date".toList, m.date.mailText.toList)] := by
  refine Eq.trans (congrArg (List.mapM readHeader?) ?_) (mapM_readHeader?_map ?_)
  · simp [headerLines]
  · simp only [List.forall_mem_cons]
    exact ⟨by decide, by decide, by decide, by decide, List.forall_mem_nil _⟩

/-- The text of a message is four lines, each of them without a line end of its own, an empty line
and the body, to which a newline is added if it does not end in one. Nothing that the message holds
keeps a reader from finding these headers, no others, and the body behind them. -/
theorem text_is_read_back (m : Message) :
    ∃ sender subject recipients date : List Char,
      StandsInHeader m.sender.toList sender ∧ StandsInHeader m.subject.toList subject ∧
      StandsInHeader (", ".intercalate m.recipients).toList recipients ∧
      date = m.date.mailText.toList ∧ date ≠ [] ∧
      let head := ["From: ".toList ++ sender, "Subject: ".toList ++ subject,
        "To: ".toList ++ recipients, "Date: ".toList ++ date]
      let body := m.body.toList ++ if m.body.toList.getLast? = some '\n' then [] else ['\n']
      m.text = head.flatMap (· ++ ['\n']) ++ '\n' :: body ∧
      (∀ line ∈ head, '\r' ∉ line ∧ '\n' ∉ line) ∧
      takeHead? [] m.text = some (head, body) ∧
      readMail? m.text = some ([("From".toList, sender), ("Subject".toList, subject),
        ("To".toList, recipients), ("Date".toList, date)], body) := by
  refine ⟨_, _, _, _, standsInHeader_headerValue _, standsInHeader_headerValue _,
    standsInHeader_headerValue _, rfl, m.date.mailText_ne_nil, ?_⟩
  rw [← endLine_eq_append]
  refine ⟨m.text_eq_append, fun line hline => ?_, m.takeHead?_text, ?_⟩
  · have hone := (m.forall_mem_headerLines line hline).2
    exact ⟨fun hreturn => (hone '\r' hreturn).1 rfl, hone.newline_not_mem⟩
  · rw [readMail?, m.takeHead?_text]
    exact congrArg (Option.map (·, endLine m.body.toList)) m.mapM_readHeader?_headerLines

/-- Line ends in every value, and a body that looks like headers. -/
example :
    let m : Message := ⟨"\nops@site", ["a@site", "b@site\r\nBcc: c@site"], "disk\n\nfull",
      ⟨⟨2024, 3, 1, by decide⟩, ⟨12, 30, 0, 0, by decide⟩, 60⟩, "\nBcc: d@site\r\n\r\n."⟩
    readMail? m.text = some ([("From".toList, " ops@site".toList),
      ("Subject".toList, "disk  full".toList), ("To".toList, "a@site, b@site  Bcc: c@site".toList),
      ("Date".toList, "Fri, 1 Mar 2024 12:30:00 +0100".toList)],
      "\nBcc: d@site\r\n\r\n.\n".toList) := by
  decide +kernel

end Message

end ReportRouting
