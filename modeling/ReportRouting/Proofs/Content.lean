import ReportRouting.Mail.Program
import ReportRouting.Proofs.AsciiBytes
import ReportRouting.Proofs.LineEnds
import ReportRouting.Proofs.Script

/-!
The content of a message as a relay reads it.

A relay reads lines, each up to a carriage return with a newline behind it, until a line is a point
alone. From any other line that begins with a point it takes this point away. From the content of
a message it reads the lines of the text, and the point is the last thing that it reads: no text
ends its content early, and nothing of it is left to be read as a request.
-/

namespace ReportRouting

open Text

namespace Relay

/-- The bytes before the first line end, and the bytes behind it. -/
def takeLine? : List UInt8 → Option (List UInt8 × List UInt8)
  | a :: b :: rest =>
    if a = 13 ∧ b = 10 then some ([], rest)
    else (takeLine? (b :: rest)).map fun (line, later) => (a :: line, later)
  | _ => none

theorem eq_of_takeLine? {bytes line rest : List UInt8} (h : takeLine? bytes = some (line, rest)) :
    bytes = line ++ 13 :: 10 :: rest := by
  induction bytes generalizing line with
  | nil => cases h
  | cons a bytes ih =>
      cases bytes with
      | nil => cases h
      | cons b bytes =>
          rw [takeLine?] at h
          split at h
          case isTrue hend =>
            cases h
            rw [hend.1, hend.2]
            rfl
          case isFalse =>
            obtain ⟨⟨front, later⟩, hfront, hline⟩ := Option.map_eq_some_iff.1 h
            cases hline
            rw [ih hfront]
            rfl

theorem length_lt_of_takeLine? {bytes line rest : List UInt8}
    (h : takeLine? bytes = some (line, rest)) : rest.length < bytes.length := by
  rw [eq_of_takeLine? h, List.length_append, List.length_cons, List.length_cons]
  omega

def unstuffed (line : List UInt8) : List UInt8 :=
  if line.head? = some 46 then line.tail else line

/-- The lines of the content at the front of some bytes, and the bytes behind its end. -/
def takeContent? (bytes : List UInt8) : Option (List (List UInt8) × List UInt8) :=
  match _h : takeLine? bytes with
  | none => none
  | some (line, rest) =>
    if line = [46] then some ([], rest)
    else (takeContent? rest).map fun (lines, later) => (unstuffed line :: lines, later)
termination_by bytes.length
decreasing_by exact length_lt_of_takeLine? _h

section

variable {line : List UInt8}

theorem takeLine?_cons {bytes : List UInt8} (h : bytes.head? ≠ some 10) (a : UInt8) :
    takeLine? (a :: bytes) =
      (takeLine? bytes).map fun (line, later) => (a :: line, later) := by
  cases bytes with
  | nil => rfl
  | cons b bytes =>
      rw [takeLine?, if_neg]
      rintro ⟨_, rfl⟩
      exact h rfl

theorem takeLine?_append (h : 10 ∉ line) (rest : List UInt8) :
    takeLine? (line ++ 13 :: 10 :: rest) = some (line, rest) := by
  induction line with
  | nil => rfl
  | cons a line ih =>
      have hline : 10 ∉ line := List.not_mem_of_not_mem_cons h
      have hhead : (line ++ 13 :: 10 :: rest).head? ≠ some 10 := by
        cases line with
        | nil => exact fun hreturn => absurd (Option.some.inj hreturn) (by decide)
        | cons b line => exact fun hb => hline (Option.some.inj hb ▸ List.mem_cons_self)
      rw [List.cons_append, takeLine?_cons hhead, ih hline]
      rfl

theorem takeContent?_append (h : 10 ∉ line) (rest : List UInt8) :
    takeContent? (line ++ 13 :: 10 :: rest) =
      if line = [46] then some ([], rest)
      else (takeContent? rest).map fun (lines, later) => (unstuffed line :: lines, later) := by
  rw [takeContent?]
  split
  case h_1 hline =>
    rw [takeLine?_append h] at hline
    cases hline
  case h_2 hline =>
    rw [takeLine?_append h] at hline
    cases hline
    rfl

end

end Relay

/-! ### The lines of the content -/

namespace Session

open Relay

theorem bytesOf_lineEnd : bytesOf lineEnd = [13, 10] := rfl

theorem bytesOf_stuffed (line : List Char) :
    bytesOf (stuffed line) =
      if line.head? = some '.' then 46 :: bytesOf line else bytesOf line := by
  rw [stuffed]
  split
  · exact bytesOf_cons '.' line
  · rfl

variable {line : List Char}

theorem newline_not_mem_bytesOf_stuffed (h : '\n' ∉ line) : 10 ∉ bytesOf (stuffed line) := by
  have hbytes : 10 ∉ bytesOf line := mt (mem_bytesOf_iff (c := '\n') (by decide)).1 h
  rw [bytesOf_stuffed]
  split
  · exact List.not_mem_cons_of_ne_of_not_mem (by decide) hbytes
  · exact hbytes

theorem bytesOf_stuffed_ne_point (line : List Char) : bytesOf (stuffed line) ≠ [46] := by
  have hhead : (bytesOf line).head? = some 46 ↔ line.head? = some '.' :=
    head?_bytesOf_eq_some_iff (c := '.') (by decide)
  rw [bytesOf_stuffed]
  split
  case isTrue hpoint =>
    intro h
    rw [← hhead, (List.cons.inj h).2] at hpoint
    cases hpoint
  case isFalse hpoint =>
    intro h
    rw [← hhead, h] at hpoint
    exact hpoint rfl

theorem unstuffed_bytesOf_stuffed (line : List Char) :
    unstuffed (bytesOf (stuffed line)) = bytesOf line := by
  rw [bytesOf_stuffed]
  split
  case isTrue => rfl
  case isFalse hpoint =>
    exact if_neg (mt (head?_bytesOf_eq_some_iff (c := '.') (by decide)).1 hpoint)

/-- Lines that are written as content are read as they are. -/
theorem takeContent?_bytesOf {ls : List (List Char)} (h : ∀ line ∈ ls, '\n' ∉ line)
    (later : List UInt8) :
    takeContent? (bytesOf (ls.flatMap (fun line => stuffed line ++ lineEnd) ++ '.' :: lineEnd) ++
      later) = some (ls.map bytesOf, later) := by
  induction ls with
  | nil =>
      show takeContent? ([46] ++ 13 :: 10 :: later) = _
      rw [takeContent?_append (by decide), if_pos rfl]
      rfl
  | cons line ls ih =>
      obtain ⟨hline, hls⟩ := List.forall_mem_cons.1 h
      have hfront : ∀ more, bytesOf (stuffed line ++ lineEnd ++ more) ++ later =
          bytesOf (stuffed line) ++ 13 :: 10 :: (bytesOf more ++ later) := by
        intro more
        rw [bytesOf_append, bytesOf_append, bytesOf_lineEnd, List.append_assoc, List.append_assoc]
        rfl
      rw [List.flatMap_cons, List.append_assoc, hfront,
        takeContent?_append (newline_not_mem_bytesOf_stuffed hline),
        if_neg (bytesOf_stuffed_ne_point line), ih hls, unstuffed_bytesOf_stuffed]
      rfl

end Session

namespace Message

theorem isWhole_text (m : Message) : IsWhole m.text := by
  have hend : (endLine m.body.toList).getLast? = some '\n' := by
    rw [endLine]
    split
    case isTrue h => exact h
    case isFalse => exact List.getLast?_concat
  apply isWhole_of_getLast?
  right
  rw [text, List.getLast?_append, List.getLast?_cons, hend]
  rfl

/-- The requests before the content. -/
def envelope (m : Message) : List Request :=
  Request.command ("MAIL FROM:<" ++ m.sender ++ ">") [250] ::
    m.recipients.map (fun recipient =>
      Request.command ("RCPT TO:<" ++ recipient ++ ">") [250, 251]) ++
    [Request.command "DATA" [354]]

theorem requests_eq (m : Message) :
    m.requests = m.envelope ++ [⟨bytesOf (Session.content m), [250]⟩] := by
  rw [requests, envelope]
  simp

/-- A program gets the text of its message, whatever becomes of it. -/
theorem runs_singleton (program : String) (behave : Behaviour) (m : Message) :
    (runAll program behave [m]).1 = [m.run] := by
  rw [runAll, runAllFrom]
  split <;> rfl

end Message

theorem isAccepted_append_iff {before : List Request} {i : Nat} (h : i < before.length)
    (after : List Request) (unread : Incoming) :
    IsAccepted (before ++ after) unread i ↔ IsAccepted before unread i := by
  rw [IsAccepted, IsAccepted, List.getElem?_append_left h]

/-- If all requests but the last are accepted, the last is written as well. -/
theorem Session.written_perform_concat {before : List Request} {wire : Wire}
    (haccepted : ∀ i < before.length, IsAccepted before wire.unread i) (last : Request)
    (hfits : Fits wire.room (scriptBytes (before ++ [last])).length) :
    (perform (before ++ [last]) wire).2.written =
      wire.written ++ scriptBytes (before ++ [last]) := by
  obtain ⟨k, hk⟩ := exists_isFirstRefusal (before ++ [last]) wire.unread
  have hle : before.length ≤ k := by
    by_contra hlt
    have hkb := Nat.lt_of_not_le hlt
    exact hk.2 ((isAccepted_append_iff hkb _ _).2 (haccepted k hkb))
  have hall : (before ++ [last]).take (k + 1) = before ++ [last] := by
    apply List.take_of_length_le
    rw [List.length_append, List.length_singleton]
    omega
  rw [(perform_of_isFirstRefusal wire hk).1, hall, passing_of_fits hfits, List.take_length]

/-- Behind the requests that a relay has accepted stands one block, whatever may come later. The
relay reads it to its last byte, and the lines that it reads are the text which a program is given
for the same message, but for carriage returns right before a newline. -/
theorem send_is_received_as_written (m : Message) (wire : Wire)
    (hfits : Fits wire.room (scriptBytes m.requests).length)
    (haccepted : ∀ i < m.envelope.length, IsAccepted m.envelope wire.unread i) :
    ∃ block lines,
      (Session.send m wire).2.written = wire.written ++ scriptBytes m.envelope ++ block ∧
      (∀ later, Relay.takeContent? (block ++ later) = some (lines, later)) ∧
      lines.flatMap (· ++ [10]) = bytesOf (withoutReturns m.text) ∧
      ∀ program behave, (runAll program behave [m]).1 = [⟨m.recipients, m.text⟩] := by
  have hwritten := Session.written_perform_concat haccepted _ (m.requests_eq ▸ hfits)
  rw [← m.requests_eq, ← Session.send_eq_perform, m.requests_eq, scriptBytes_append,
    ← List.append_assoc] at hwritten
  refine ⟨bytesOf (Session.content m), (lines m.text).map bytesOf, ?_, ?_, ?_, ?_⟩
  · rw [hwritten, scriptBytes_cons, scriptBytes_nil, List.append_nil]
  · exact Session.takeContent?_bytesOf fun _ hline => m.isWhole_text.newline_not_mem hline
  · rw [← m.isWhole_text.flatMap_ended_lines, bytesOf_flatMap, List.flatMap_map]
    simp only [ended, bytesOf_append]
    rfl
  · exact fun program behave => Message.runs_singleton program behave m

/-- Among the lines of the body are points alone, carriage returns within and at the end, and
nothing at all. -/
def sampleMail : Message where
  sender := "tagmail@site"
  recipients := ["ops@site", "qa@site"]
  subject := ".\r\n."
  date := ⟨⟨2024, 3, 1, by decide⟩, ⟨12, 30, 0, 0, by decide⟩, 60⟩
  body := ".\n..\r\r\n\na\rb\r\n.\r"

theorem send_is_received_as_written_of_sample :
    let replies : Incoming := ⟨bytesOf "250 ok\n250 ok\n251 ok\n354 ok\n".toList, none⟩
    (∀ i < sampleMail.envelope.length, IsAccepted sampleMail.envelope replies i) ∧
    ∃ block lines,
      (Session.send sampleMail ⟨replies, [], none⟩).2.written =
        scriptBytes sampleMail.envelope ++ block ∧
      (∀ later, Relay.takeContent? (block ++ later) = some (lines, later)) ∧
      lines.flatMap (· ++ [10]) = bytesOf ("From: tagmail@site\nSubject: .  .\n" ++
        "To: ops@site, qa@site\nDate: Fri, 1 Mar 2024 12:30:00 +0100\n\n" ++
        ".\n..\r\n\na\rb\n.\n").toList := by
  intro replies
  have haccepted : ∀ i < sampleMail.envelope.length, IsAccepted sampleMail.envelope replies i := by
    decide +kernel
  obtain ⟨block, lines, hwritten, hread, htext, _⟩ :=
    send_is_received_as_written sampleMail ⟨replies, [], none⟩ nofun haccepted
  refine ⟨haccepted, block, lines, hwritten, hread, ?_⟩
  rw [htext]
  decide +kernel

end ReportRouting
