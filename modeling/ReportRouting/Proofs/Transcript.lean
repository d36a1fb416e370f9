import Mathlib.Data.List.Infix
import ReportRouting.Proofs.Content
import ReportRouting.Proofs.Mailing
import ReportRouting.Proofs.StatedRule

/-!
What a relay hears of a session.

A relay splits the bytes of a session at line ends. Each line is a command until one of them asks
for data, and then each is a line of the data until one is a point alone. A relay may be strict
about line ends and wait for a carriage return with a newline behind it, or lenient and take any
newline for one.

A session is to be heard as `transcript` has it: one command that names the client, then for every
message its sender, its recipients, the command for data and the data, and at last the command that
ends the session. The texts of the logs, the name of the host and the recipients of the rules have
no part in whether it is. The name of the client and the sender are sent as they are set: the
session is heard as it should be exactly if neither has a line end in it, and settings that have
one there count as valid.
-/

namespace ReportRouting

open Text

namespace Relay

/-! ### Line ends -/

inductive LineEnd where
  | strict
  | lenient
  deriving DecidableEq, Repr

/-- There is a line end in what may be a text or its bytes. -/
def LineEnd.OccursIn {α : Type} (carriage newline : α) : LineEnd → List α → Prop
  | strict, s => [carriage, newline] <:+: s
  | lenient, s => newline ∈ s

def LineEnd.InText (e : LineEnd) (s : String) : Prop :=
  e.OccursIn '\r' '\n' s.toList

def LineEnd.InBytes (e : LineEnd) (bytes : List UInt8) : Prop :=
  e.OccursIn 13 10 bytes

instance {α : Type} [DecidableEq α] (carriage newline : α) (e : LineEnd) (s : List α) :
    Decidable (e.OccursIn carriage newline s) :=
  match e with
  | .strict => inferInstanceAs (Decidable ([carriage, newline] <:+: s))
  | .lenient => inferInstanceAs (Decidable (newline ∈ s))

instance (e : LineEnd) (s : String) : Decidable (e.InText s) :=
  inferInstanceAs (Decidable (e.OccursIn '\r' '\n' s.toList))

section

variable {α : Type} {carriage newline : α} {e : LineEnd}

theorem LineEnd.not_occursIn_nil : ¬e.OccursIn carriage newline ([] : List α) := by
  cases e with
  | strict => exact fun h => nomatch List.eq_nil_of_infix_nil h
  | lenient => exact List.not_mem_nil

/-- There is no line end without a newline. -/
theorem LineEnd.not_occursIn_of_not_mem {s : List α} (h : newline ∉ s) :
    ¬e.OccursIn carriage newline s := by
  cases e with
  | strict => exact fun hwithin => h (hwithin.subset (by simp))
  | lenient => exact h

theorem LineEnd.occursIn_cons_iff {a : α} {s : List α} :
    e.OccursIn carriage newline (a :: s) ↔
      (a = carriage ∧ s.head? = some newline) ∨ (a = newline ∧ e = .lenient) ∨
        e.OccursIn carriage newline s := by
  cases e with
  | strict =>
      simp [OccursIn, List.infix_cons_iff, List.cons_prefix_cons,
        List.singleton_prefix_iff_head?_eq_some, eq_comm]
  | lenient =>
      have hhead : s.head? = some newline → newline ∈ s := List.mem_of_head?
      simp only [OccursIn, List.mem_cons, and_true]
      grind

theorem LineEnd.occursIn_append_iff {s t : List α} (h : ∀ a ∈ s, a ≠ carriage ∧ a ≠ newline) :
    e.OccursIn carriage newline (s ++ t) ↔ e.OccursIn carriage newline t := by
  induction s with
  | nil => exact Iff.rfl
  | cons a s ih =>
      obtain ⟨⟨hcarriage, hnewline⟩, hs⟩ := List.forall_mem_cons.1 h
      rw [List.cons_append, occursIn_cons_iff, ih hs]
      simp only [hcarriage, hnewline, false_and, false_or]

theorem LineEnd.occursIn_append_iff_left {s t : List α}
    (h : ∀ a ∈ t, a ≠ carriage ∧ a ≠ newline) :
    e.OccursIn carriage newline (s ++ t) ↔ e.OccursIn carriage newline s := by
  induction s with
  | nil =>
      rw [List.nil_append, ← List.append_nil t, occursIn_append_iff h]
  | cons a s ih =>
      have hhead : (s ++ t).head? = some newline ↔ s.head? = some newline := by
        cases s with
        | nil => exact iff_of_false (fun ht => (h _ (List.mem_of_head? ht)).2 rfl) nofun
        | cons b s => exact Iff.rfl
      rw [List.cons_append, occursIn_cons_iff, occursIn_cons_iff, hhead, ih]

end

/-- No line end is made or lost in the bytes of a text. -/
theorem LineEnd.inBytes_bytesOf_iff {e : LineEnd} {s : List Char} :
    e.InBytes (bytesOf s) ↔ e.OccursIn '\r' '\n' s := by
  induction s with
  | nil => exact iff_of_false not_occursIn_nil not_occursIn_nil
  | cons c s ih =>
      have hhead : (bytesOf s).head? = some 10 ↔ s.head? = some '\n' :=
        head?_bytesOf_eq_some_iff (c := '\n') (by decide)
      rw [InBytes] at ih ⊢
      rw [bytesOf_cons, occursIn_cons_iff (a := c)]
      by_cases hcarriage : c = '\r'
      · subst hcarriage
        show e.OccursIn 13 10 (13 :: bytesOf s) ↔ _
        rw [occursIn_cons_iff, hhead, ih]
        simp
      by_cases hnewline : c = '\n'
      · subst hnewline
        show e.OccursIn 13 10 (10 :: bytesOf s) ↔ _
        rw [occursIn_cons_iff, hhead, ih]
        simp
      -- None of the bytes of any other character is a part of a line end.
      have hbytes : ∀ b ∈ String.utf8EncodeChar c, b ≠ 13 ∧ b ≠ 10 := by
        intro b hb
        constructor
        · rintro rfl
          exact hcarriage ((ofNat_mem_utf8EncodeChar_iff (c := '\r') (by decide)).1 hb).symm
        · rintro rfl
          exact hnewline ((ofNat_mem_utf8EncodeChar_iff (c := '\n') (by decide)).1 hb).symm
      rw [occursIn_append_iff hbytes, ih]
      simp [hcarriage, hnewline]

/-! ### Lines -/

/-- The lines of some bytes, and, as the last piece, what stands behind the last line end. -/
def pieces (e : LineEnd) : List UInt8 → List (List UInt8)
  | a :: b :: rest =>
    if a = 13 ∧ b = 10 then [] :: pieces e rest
    else if a = 10 ∧ e = .lenient then [] :: pieces e (b :: rest)
    else (pieces e (b :: rest)).modifyHead (a :: ·)
  | [a] => if a = 10 ∧ e = .lenient then [[], []] else [[a]]
  | [] => [[]]

section

variable {e : LineEnd}

theorem pieces_cons {a : UInt8} {bytes : List UInt8} (hstrict : ¬(a = 13 ∧ bytes.head? = some 10))
    (hlenient : ¬(a = 10 ∧ e = .lenient)) :
    pieces e (a :: bytes) = (pieces e bytes).modifyHead (a :: ·) := by
  cases bytes with
  | nil => rw [pieces, if_neg hlenient, pieces, List.modifyHead_cons]
  | cons b bytes =>
      rw [pieces, if_neg (fun h => hstrict ⟨h.1, congrArg some h.2⟩), if_neg hlenient]

theorem pieces_append {line : List UInt8} (h : ¬e.InBytes line) (rest : List UInt8) :
    pieces e (line ++ 13 :: 10 :: rest) = line :: pieces e rest := by
  induction line with
  | nil => rw [List.nil_append, pieces, if_pos ⟨rfl, rfl⟩]
  | cons a line ih =>
      rw [LineEnd.InBytes, LineEnd.occursIn_cons_iff, not_or, not_or] at h
      obtain ⟨hstrict, hlenient, hline⟩ := h
      have hhead : ¬(a = 13 ∧ (line ++ 13 :: 10 :: rest).head? = some 10) := by
        rintro ⟨ha, hten⟩
        cases line with
        | nil => exact absurd (Option.some.inj hten) (by decide)
        | cons b line => exact hstrict ⟨ha, hten⟩
      rw [List.cons_append, pieces_cons hhead hlenient, ih hline, List.modifyHead_cons]

theorem pieces_flatMap {lines : List (List UInt8)} (h : ∀ line ∈ lines, ¬e.InBytes line) :
    pieces e (lines.flatMap (· ++ [13, 10])) = lines ++ [[]] := by
  induction lines with
  | nil => rfl
  | cons line lines ih =>
      obtain ⟨hline, hlines⟩ := List.forall_mem_cons.1 h
      rw [List.flatMap_cons, List.append_assoc]
      show pieces e (line ++ 13 :: 10 :: lines.flatMap (· ++ [13, 10])) = _
      rw [pieces_append hline, ih hlines, List.cons_append]

theorem pieces_ne_nil (e : LineEnd) (bytes : List UInt8) : pieces e bytes ≠ [] := by
  fun_induction pieces e bytes with
  | case3 a b rest _ _ ih => simpa using ih
  | _ => simp

theorem prefix_of_pieces_eq_cons {bytes piece : List UInt8} {more : List (List UInt8)}
    (h : pieces e bytes = piece :: more) : piece <+: bytes := by
  fun_induction pieces e bytes generalizing piece more with
  | case3 a b rest hstrict hlenient ih =>
      obtain ⟨front, others, hpieces⟩ := List.exists_cons_of_ne_nil (pieces_ne_nil e (b :: rest))
      rw [hpieces, List.modifyHead_cons] at h
      cases h
      exact List.cons_prefix_cons.2 ⟨rfl, ih hpieces⟩
  | case5 a =>
      cases h
      exact List.prefix_rfl
  | _ =>
      cases h
      exact List.nil_prefix

/-- Splitting leaves no line end within a piece. -/
theorem not_inBytes_of_mem_pieces {bytes piece : List UInt8} (h : piece ∈ pieces e bytes) :
    ¬e.InBytes piece := by
  fun_induction pieces e bytes generalizing piece with
  | case1 a b rest _ ih =>
      rcases List.mem_cons.1 h with rfl | h
      · exact LineEnd.not_occursIn_nil
      · exact ih h
  | case2 a b rest _ _ ih =>
      rcases List.mem_cons.1 h with rfl | h
      · exact LineEnd.not_occursIn_nil
      · exact ih h
  | case3 a b rest hstrict hlenient ih =>
      obtain ⟨front, others, hpieces⟩ := List.exists_cons_of_ne_nil (pieces_ne_nil e (b :: rest))
      rw [hpieces] at ih
      rw [hpieces, List.modifyHead_cons] at h
      rcases List.mem_cons.1 h with rfl | h
      · rw [LineEnd.InBytes, LineEnd.occursIn_cons_iff, not_or, not_or]
        refine ⟨?_, hlenient, ih List.mem_cons_self⟩
        rintro ⟨ha, hten⟩
        obtain ⟨more, hmore⟩ := prefix_of_pieces_eq_cons hpieces
        have hb : (b :: rest).head? = some 10 := by
          rw [← hmore, List.head?_append, hten]
          rfl
        exact hstrict ⟨ha, Option.some.inj hb⟩
      · exact ih (List.mem_cons_of_mem front h)
  | case4 a _ =>
      rw [List.mem_pair.1 h |>.elim id id]
      exact LineEnd.not_occursIn_nil
  | case5 a hlenient =>
      rw [List.mem_singleton.1 h, LineEnd.InBytes, LineEnd.occursIn_cons_iff, not_or, not_or]
      exact ⟨nofun, hlenient, LineEnd.not_occursIn_nil⟩
  | case6 =>
      rw [List.mem_singleton.1 h]
      exact LineEnd.not_occursIn_nil

end

/-! ### Commands and data -/

/-- What a relay takes a line for. -/
inductive Heard where
  | command (line : List UInt8)
  | data (line : List UInt8)
  | dataEnd
  deriving DecidableEq, Repr

def Heard.line : Heard → List UInt8
  | command line => line
  | data line => line
  | dataEnd => [46]

/-- Whether a line asks for data, in letters of either case. -/
def asksForData (line : List UInt8) : Bool :=
  line.map (· &&& 0xDF) == bytesOf "DATA".toList

/-- Follows lines as a relay that accepts everything does. -/
def follow (inData : Bool) : List (List UInt8) → List Heard
  | [] => []
  | line :: rest =>
    if inData then
      if line = [46] then .dataEnd :: follow false rest else .data line :: follow true rest
    else .command line :: follow (asksForData line) rest

/-- What is heard of some bytes, and what stands behind their last line end. -/
def hear (e : LineEnd) (bytes : List UInt8) : List Heard × List UInt8 :=
  (follow false (pieces e bytes).dropLast, (pieces e bytes).getLast (pieces_ne_nil e bytes))

theorem map_line_follow (inData : Bool) (lines : List (List UInt8)) :
    (follow inData lines).map Heard.line = lines := by
  induction lines generalizing inData with
  | nil => rfl
  | cons line lines ih =>
      rw [follow]
      split
      · split
        case isTrue hpoint => rw [List.map_cons, ih, hpoint, Heard.line]
        case isFalse => rw [List.map_cons, ih, Heard.line]
      · rw [List.map_cons, ih, Heard.line]

theorem follow_commands {lines : List (List UInt8)} (h : ∀ line ∈ lines, asksForData line = false)
    (rest : List (List UInt8)) :
    follow false (lines ++ rest) = lines.map .command ++ follow false rest := by
  induction lines with
  | nil => rfl
  | cons line lines ih =>
      obtain ⟨hline, hlines⟩ := List.forall_mem_cons.1 h
      rw [List.cons_append, follow, if_neg Bool.false_ne_true, hline, ih hlines]
      rfl

theorem follow_data {lines : List (List UInt8)} (h : ∀ line ∈ lines, line ≠ [46])
    (rest : List (List UInt8)) :
    follow true (lines ++ [46] :: rest) = lines.map .data ++ .dataEnd :: follow false rest := by
  induction lines with
  | nil => rfl
  | cons line lines ih =>
      obtain ⟨hline, hlines⟩ := List.forall_mem_cons.1 h
      rw [List.cons_append, follow, if_pos rfl, if_neg hline, ih hlines]
      rfl

/-- The bytes of some lines with a line end behind each of them. -/
def spoken (heard : List Heard) : List UInt8 :=
  heard.flatMap fun one => one.line ++ [13, 10]

@[simp] theorem spoken_nil : spoken [] = [] := rfl

@[simp] theorem spoken_cons (one : Heard) (heard : List Heard) :
    spoken (one :: heard) = one.line ++ 13 :: 10 :: spoken heard := by
  simp [spoken]

@[simp] theorem spoken_append (before after : List Heard) :
    spoken (before ++ after) = spoken before ++ spoken after :=
  List.flatMap_append

/-- What is spoken is heard, if there is no line end within a line, and only then. -/
theorem hear_spoken_iff {e : LineEnd} {heard : List Heard}
    (h : follow false (heard.map Heard.line) = heard) :
    hear e (spoken heard) = (heard, []) ↔ ∀ one ∈ heard, ¬e.InBytes one.line := by
  constructor
  · intro hheard one hone
    have hlines := congrArg (List.map Heard.line) (Prod.mk.inj hheard).1
    rw [map_line_follow] at hlines
    apply not_inBytes_of_mem_pieces
    apply List.dropLast_subset
    rw [hlines]
    exact List.mem_map_of_mem hone
  · intro hlines
    have hpieces : pieces e (spoken heard) = heard.map Heard.line ++ [[]] := by
      rw [← pieces_flatMap (List.forall_mem_map.2 hlines), List.flatMap_map, spoken]
    simp only [hear, hpieces, List.dropLast_concat, h, List.getLast_append_singleton]

end Relay

/-! ### Sessions -/

open Relay

def heardCommand (line : String) : Heard :=
  .command (bytesOf line.toList)

/-- What is to be heard of a message. -/
def Message.transcript (m : Message) : List Heard :=
  heardCommand ("MAIL FROM:<" ++ m.sender ++ ">") ::
    m.recipients.map (fun recipient => heardCommand ("RCPT TO:<" ++ recipient ++ ">")) ++
    heardCommand "DATA" ::
    (lines m.text).map (fun line => .data (bytesOf (Session.stuffed line))) ++ [.dataEnd]

/-- What is to be heard of a session. -/
def transcript (helo : String) (messages : List Message) : List Heard :=
  heardCommand ("HELO " ++ helo) :: messages.flatMap Message.transcript ++ [heardCommand "QUIT"]

theorem bytes_command (line : String) (accepted : List Nat) :
    (Request.command line accepted).bytes = (heardCommand line).line ++ [13, 10] :=
  bytesOf_append _ _

theorem scriptBytes_recipients (recipients : List String) :
    scriptBytes (recipients.map fun recipient =>
      Request.command ("RCPT TO:<" ++ recipient ++ ">") [250, 251]) =
    spoken (recipients.map fun recipient => heardCommand ("RCPT TO:<" ++ recipient ++ ">")) := by
  rw [scriptBytes, spoken, List.flatMap_map, List.flatMap_map]
  simp only [bytes_command]

theorem Session.bytesOf_content (m : Message) :
    bytesOf (content m) =
      spoken ((lines m.text).map (fun line => .data (bytesOf (stuffed line))) ++ [.dataEnd]) := by
  rw [content, bytesOf_append, bytesOf_flatMap, spoken_append, spoken, List.flatMap_map]
  simp only [bytesOf_append, bytesOf_lineEnd]
  rfl

theorem Message.scriptBytes_requests (m : Message) :
    scriptBytes m.requests = spoken m.transcript := by
  rw [requests, transcript]
  simp [bytes_command, scriptBytes_recipients, Session.bytesOf_content]

theorem scriptBytes_script (helo : String) (messages : List Message) :
    scriptBytes (script helo messages) = spoken (transcript helo messages) := by
  have hmessages : scriptBytes (messages.flatMap Message.requests) =
      spoken (messages.flatMap Message.transcript) := by
    rw [scriptBytes, spoken, List.flatMap_assoc, List.flatMap_assoc]
    exact congrArg (List.flatMap · messages) (funext Message.scriptBytes_requests)
  rw [script, transcript]
  simp [bytes_command, hmessages, Request.banner]

/-! ### A relay follows a session -/

theorem asksForData_eq_false {b : UInt8} (h : b &&& 0xDF ≠ 68) (line : List UInt8) :
    asksForData (b :: line) = false := by
  rw [asksForData, List.map_cons]
  exact beq_false_of_ne fun heq => h (List.cons.inj heq).1

/-- The first letter tells a command from the one for data. -/
theorem asksForData_bytesOf_append {verb : String} {b : UInt8} {bytes : List UInt8}
    (hverb : bytesOf verb.toList = b :: bytes) (h : b &&& 0xDF ≠ 68) (s : String) :
    asksForData (bytesOf (verb ++ s).toList) = false := by
  rw [String.toList_append, bytesOf_append, hverb]
  exact asksForData_eq_false h _

theorem Message.follow_transcript (m : Message) (rest : List (List UInt8)) :
    follow false (m.transcript.map Heard.line ++ rest) = m.transcript ++ follow false rest := by
  have hsplit : m.transcript.map Heard.line ++ rest =
      (bytesOf ("MAIL FROM:<" ++ m.sender ++ ">").toList ::
        m.recipients.map fun recipient => bytesOf ("RCPT TO:<" ++ recipient ++ ">").toList) ++
      (bytesOf "DATA".toList ::
        ((lines m.text).map (fun line => bytesOf (Session.stuffed line)) ++ [46] :: rest)) := by
    simp [transcript, heardCommand, Heard.line, Function.comp_def]
  have hcommands : ∀ line ∈ bytesOf ("MAIL FROM:<" ++ m.sender ++ ">").toList ::
      m.recipients.map (fun recipient => bytesOf ("RCPT TO:<" ++ recipient ++ ">").toList),
      asksForData line = false := by
    simp only [List.forall_mem_cons, List.forall_mem_map, String.append_assoc]
    exact ⟨asksForData_bytesOf_append rfl (by decide) _,
      fun _ _ => asksForData_bytesOf_append rfl (by decide) _⟩
  have hdata : ∀ line ∈ (lines m.text).map (fun line => bytesOf (Session.stuffed line)),
      line ≠ [46] :=
    List.forall_mem_map.2 fun line _ => Session.bytesOf_stuffed_ne_point line
  have hasks : asksForData (bytesOf "DATA".toList) = true := by decide
  rw [hsplit, follow_commands hcommands, follow, if_neg Bool.false_ne_true, hasks,
    follow_data hdata]
  simp [transcript, heardCommand, Function.comp_def]

theorem follow_flatMap_transcript (messages : List Message) (rest : List (List UInt8)) :
    follow false ((messages.flatMap Message.transcript).map Heard.line ++ rest) =
      messages.flatMap Message.transcript ++ follow false rest := by
  induction messages with
  | nil => rfl
  | cons m messages ih =>
      rw [List.flatMap_cons, List.map_append, List.append_assoc, m.follow_transcript, ih,
        List.append_assoc]

theorem follow_transcript (helo : String) (messages : List Message) :
    follow false ((transcript helo messages).map Heard.line) = transcript helo messages := by
  have hhelo : asksForData (bytesOf ("HELO " ++ helo).toList) = false :=
    asksForData_bytesOf_append rfl (by decide) _
  rw [transcript, List.map_append, List.map_cons, List.cons_append, follow,
    if_neg Bool.false_ne_true, heardCommand, Heard.line, hhelo, follow_flatMap_transcript]
  rfl

/-! ### Where line ends can come from -/

theorem inBytes_command_iff {e : LineEnd} {line : String} :
    e.InBytes (heardCommand line).line ↔ e.InText line :=
  LineEnd.inBytes_bytesOf_iff

theorem inText_append_iff {e : LineEnd} {front s : String} (h : OnOneLine front.toList) :
    e.InText (front ++ s) ↔ e.InText s := by
  rw [LineEnd.InText, String.toList_append, LineEnd.occursIn_append_iff h, LineEnd.InText]

theorem inText_append_iff_left {e : LineEnd} {s back : String} (h : OnOneLine back.toList) :
    e.InText (s ++ back) ↔ e.InText s := by
  rw [LineEnd.InText, String.toList_append, LineEnd.occursIn_append_iff_left h, LineEnd.InText]

/-- Of all that is in a message, only its sender can bring in a line end. -/
theorem Message.forall_mem_transcript_iff {e : LineEnd} {m : Message}
    (h : ∀ recipient ∈ m.recipients, ¬e.InText recipient) :
    (∀ one ∈ m.transcript, ¬e.InBytes one.line) ↔ ¬e.InText m.sender := by
  have hdata : ∀ line ∈ lines m.text, ¬e.InBytes (bytesOf (Session.stuffed line)) := by
    intro line hline
    have hnewline := m.isWhole_text.newline_not_mem hline
    exact LineEnd.not_occursIn_of_not_mem (Session.newline_not_mem_bytesOf_stuffed hnewline)
  have hpoint : ¬e.InBytes Heard.dataEnd.line := LineEnd.not_occursIn_of_not_mem (by decide)
  have hask : ¬e.InBytes (heardCommand "DATA").line :=
    LineEnd.not_occursIn_of_not_mem (by decide)
  have hclose : OnOneLine ">".toList := by decide
  have hmail : OnOneLine "MAIL FROM:<".toList := by decide
  have hrcpt : OnOneLine "RCPT TO:<".toList := by decide
  simp only [transcript, List.forall_mem_append, List.forall_mem_cons, List.forall_mem_map,
    inBytes_command_iff, inText_append_iff_left hclose, inText_append_iff hmail,
    inText_append_iff hrcpt, hpoint, hask, not_false_eq_true, true_and]
  exact ⟨fun hall => hall.1.1.1, fun hsender => ⟨⟨⟨hsender, h⟩, hdata⟩, List.forall_mem_nil _⟩⟩

theorem forall_mem_transcript_iff {e : LineEnd} {helo : String} {messages : List Message}
    (h : ∀ m ∈ messages, ∀ recipient ∈ m.recipients, ¬e.InText recipient) :
    (∀ one ∈ transcript helo messages, ¬e.InBytes one.line) ↔
      ¬e.InText helo ∧ ∀ m ∈ messages, ¬e.InText m.sender := by
  have hquit : ¬e.InBytes (heardCommand "QUIT").line :=
    LineEnd.not_occursIn_of_not_mem (by decide)
  have hhelo : OnOneLine "HELO ".toList := by decide
  have hmessages : (∀ one ∈ messages.flatMap Message.transcript, ¬e.InBytes one.line) ↔
      ∀ m ∈ messages, ¬e.InText m.sender := by
    simp only [List.forall_mem_flatMap]
    exact forall₂_congr fun m hm => Message.forall_mem_transcript_iff (h m hm)
  simp only [transcript, List.forall_mem_append, List.forall_mem_cons, inBytes_command_iff,
    inText_append_iff hhelo, hmessages, hquit, not_false_eq_true, true_and]
  exact and_iff_left (List.forall_mem_nil _)

theorem hear_script_iff {e : LineEnd} {helo : String} {messages : List Message}
    (h : ∀ m ∈ messages, ∀ recipient ∈ m.recipients, ¬e.InText recipient) :
    hear e (scriptBytes (script helo messages)) = (transcript helo messages, []) ↔
      ¬e.InText helo ∧ ∀ m ∈ messages, ¬e.InText m.sender := by
  rw [scriptBytes_script, hear_spoken_iff (follow_transcript helo messages),
    forall_mem_transcript_iff h]

/-! ### Deliveries -/

/-- A relay that accepts every request is sent the script. -/
theorem Session.converse_of_all_accepted {helo : String} {messages : List Message}
    {replies : Incoming} {room : Option Limit}
    (hfits : Fits room (scriptBytes (script helo messages)).length)
    (h : ∀ i < (script helo messages).length, IsAccepted (script helo messages) replies i) :
    (converse helo messages ⟨replies, [], room⟩).2.written =
        scriptBytes (script helo messages) ∧
      (converse helo messages ⟨replies, [], room⟩).1 = .ok () := by
  obtain ⟨k, hk⟩ := exists_isFirstRefusal (script helo messages) replies
  have hlength : k = (script helo messages).length := hk.eq_length_iff.2 h
  obtain ⟨hwritten, hok⟩ := perform_of_isFirstRefusal ⟨replies, [], room⟩ hk
  have hall : (script helo messages).take (k + 1) = script helo messages :=
    List.take_of_length_le (by omega)
  rw [hall] at hwritten hok
  rw [passing_of_fits hfits, List.take_length, List.nil_append] at hwritten
  rw [converse_eq_perform]
  exact ⟨hwritten, hok.2 ⟨hfits, hlength⟩⟩

theorem exists_rule_of_mem_groups {rules : List Rule}
    {answers : Except RenderFault (List (Option String))} {groups : List Group}
    (h : (account rules answers).result = .ok groups) {group : Group} (hgroup : group ∈ groups) :
    ∃ r ∈ rules, group.recipients = r.recipients := by
  cases answers with
  | error fault => cases h
  | ok bodies =>
      cases h
      obtain ⟨⟨r, body⟩, hmem, hbody⟩ := List.mem_filterMap.1 hgroup
      obtain ⟨_, _, rfl⟩ := Option.map_eq_some_iff.1 hbody
      exact ⟨r, (List.of_mem_zip hmem).1, rfl⟩

/-- No recipient of a group has a line end in it, since no recipient of a rule has a blank. -/
theorem Due.Yields.not_inText_recipient {settings : Settings} {due : Due} {notices : List Notice}
    {groups : List Group} (h : due.Yields settings notices groups) (e : LineEnd) :
    ∀ group ∈ groups, ∀ recipient ∈ group.recipients, ¬e.InText recipient := by
  cases h with
  | @groups rules groups is_open has_rules routed some_group =>
      intro group hgroup recipient hrecipient
      obtain ⟨text, -, hrules⟩ := has_rules
      have hrule : ∃ r ∈ rules, group.recipients = r.recipients := by
        rw [Due.routed, routeWith] at routed
        split at routed
        · exact exists_rule_of_mem_groups routed hgroup
        · exact exists_rule_of_mem_groups routed hgroup
      obtain ⟨r, hr, heq⟩ := hrule
      have hword := ((isStated_of_readRules hrules r hr).isRecipient recipient
        (heq ▸ hrecipient)).isWord
      have hnewline : '\n' ∉ recipient.toList := fun hmem =>
        absurd (hword.isBlank_eq_false '\n' hmem) (by decide)
      exact LineEnd.not_occursIn_of_not_mem hnewline

/-- Groups go to a relay in one session, and a relay that accepts every request is sent all of its
script. -/
theorem mailDispatcher_of_all_accepted {d : DeliverySettings} {outside : Outside}
    {server : String} {replies : Incoming} {room : Option Limit}
    (hserver : d.smtpServer = some server)
    (hrelay : outside.relay server d.smtpPort d.timeout = .established replies room)
    (dates : Dates) (host : String) {groups : List Group} (hgroups : groups ≠ [])
    (hfits : Fits room (scriptBytes (script d.smtpHelo (d.messages dates host groups))).length)
    (haccepted : ∀ i < (script d.smtpHelo (d.messages dates host groups)).length,
      IsAccepted (script d.smtpHelo (d.messages dates host groups)) replies i)
    (seen : List Trace) :
    mailDispatcher d outside dates host groups seen =
      (⟨[], .ok ()⟩,
        seen ++ [⟨scriptBytes (script d.smtpHelo (d.messages dates host groups)), []⟩]) := by
  obtain ⟨hwritten, hok⟩ := Session.converse_of_all_accepted hfits haccepted
  have htransport := DeliverySettings.transport_of_server hserver
  have hdeliver : deliver d outside dates host groups =
      (⟨scriptBytes (script d.smtpHelo (d.messages dates host groups)), []⟩, .ok ()) := by
    rw [deliver_of_transport_eq_ok htransport hgroups, Transport.sendAll, hrelay, ← hwritten,
      ← hok]
    rfl
  rw [mailDispatcher, hdeliver]

/-- What holds of the sender and the recipients of messages for a group holds of each of them. -/
theorem DeliverySettings.forall_mem_messages_iff {d : DeliverySettings} {dates : Dates}
    {host : String} {groups : List Group} (p : String → List String → Prop) :
    (∀ m ∈ d.messages dates host groups, p m.sender m.recipients) ↔
      ∀ group ∈ groups, p d.sender group.recipients := by
  induction groups generalizing dates with
  | nil => exact iff_of_true (List.forall_mem_nil _) (List.forall_mem_nil _)
  | cons group groups ih =>
      rw [messages_cons, List.forall_mem_cons, List.forall_mem_cons, ih]

/-- All messages of a delivery have the sender of its settings. -/
theorem DeliverySettings.forall_mem_messages_sender_iff {d : DeliverySettings}
    {groups : List Group} (h : groups ≠ []) {dates : Dates} {host : String} (p : String → Prop) :
    (∀ m ∈ d.messages dates host groups, p m.sender) ↔ p d.sender := by
  rw [forall_mem_messages_iff fun sender _ => p sender]
  obtain ⟨group, groups, rfl⟩ := List.exists_cons_of_ne_nil h
  exact ⟨fun hall => hall group List.mem_cons_self, fun hsender _ _ => hsender⟩

/-- The groups of a report go to a relay in one session. A relay that accepts every request,
whether it is strict about line ends or lenient, hears the requests of the session, one command a
line, and nothing else, exactly if there is no line end in the name of the client and in the sender
as they are set. That no line end comes from the rules, from the host or from the logs is no
matter of the settings. -/
theorem session_is_heard_as_requested_iff {settings : Settings} {due : Due} (outside : Outside)
    {server : String} {replies : Incoming} {room : Option Limit} {notices : List Notice}
    {groups : List Group} (dates : Dates) (hyields : due.Yields settings notices groups)
    (hserver : settings.delivery.smtpServer = some server)
    (hrelay : outside.relay server settings.delivery.smtpPort settings.delivery.timeout =
      .established replies room)
    (haccepted :
      let requests := script settings.delivery.smtpHelo
        (settings.delivery.messages dates due.report.host groups)
      Fits room (scriptBytes requests).length ∧
        ∀ i < requests.length, IsAccepted requests replies i)
    (seen : List Trace) :
    ∃ sent, (processWith due.schedule settings (mailDispatcher settings.delivery outside dates)
        due.file due.report seen).2 = seen ++ [⟨sent, []⟩] ∧
      ∀ e : LineEnd, hear e sent = (transcript settings.delivery.smtpHelo
          (settings.delivery.messages dates due.report.host groups), []) ↔
        ¬e.InText settings.delivery.smtpHelo ∧ ¬e.InText settings.delivery.sender := by
  have hrecipients := hyields.not_inText_recipient
  cases hyields with
  | @groups rules groups is_open has_rules routed some_group =>
      refine ⟨scriptBytes (script settings.delivery.smtpHelo
        (settings.delivery.messages dates due.report.host groups)), ?_, fun e => ?_⟩
      · rw [Due.processWith_of_routed_eq_ok is_open has_rules routed, if_neg some_group,
          mailDispatcher_of_all_accepted hserver hrelay dates _ some_group haccepted.1 haccepted.2]
      · have hmessages : ∀ m ∈ settings.delivery.messages dates due.report.host groups,
            ∀ recipient ∈ m.recipients, ¬e.InText recipient :=
          (DeliverySettings.forall_mem_messages_iff fun _ recipients =>
            ∀ recipient ∈ recipients, ¬e.InText recipient).2 (hrecipients e)
        rw [hear_script_iff hmessages]
        exact and_congr_right fun _ =>
          DeliverySettings.forall_mem_messages_sender_iff some_group fun sender => ¬e.InText sender

/-- A relay that says the same to every client. -/
def repeating (replies : String) : Outside where
  relay _ _ _ := .established ⟨bytesOf replies.toList, none⟩ none
  program _ _ _ := .notStarted "no program"

/-- A report whose host and whose logs have line ends, points and requests in them. -/
def sampleDue : Due where
  file := .contents (bytesOf "ops@site,qa@site: disk".toList)
  report := ⟨"web01\r\nQUIT\r\n", .unknown, [
    (LogRecord.new .epoch .err "full\r\n.\r\nRCPT TO:<eve@site>\n").withTag "disk",
    (LogRecord.new .epoch .info ".").withTag "disk"]⟩
  schedule rules := .inOrder rules.length

def sampleDueGroups : List Group := [⟨["ops@site", "qa@site"],
  "1970-01-01 00:00:00 +0000 (err): full\r\n.\r\nRCPT TO:<eve@site>\n\n" ++
    "1970-01-01 00:00:00 +0000 (info): ."⟩]

def relaySettings (sender : String) : Settings :=
  { Settings.default with
    delivery := { DeliverySettings.default with smtpServer := some "relay", sender } }

theorem session_is_heard_as_requested_iff_of_sample :
    let settings := relaySettings "tagmail@site"
    let outside := repeating "220 a\n250 b\n250 c\n250 d\n251 e\n354 f\n250 g\n221 h\n"
    let messages := settings.delivery.messages sampleDates sampleDue.report.host
      sampleDueGroups
    sampleDue.Yields settings [] sampleDueGroups ∧
    ∃ sent, (processWith sampleDue.schedule settings
        (mailDispatcher settings.delivery outside sampleDates) sampleDue.file sampleDue.report
        []).2 = [⟨sent, []⟩] ∧
      ∀ e : LineEnd, hear e sent = (transcript "localhost" messages, []) := by
  intro settings outside messages
  have hrules : readRules "ops@site,qa@site: disk" =
      .ok [⟨["ops@site", "qa@site"], ⟨["disk"], []⟩, 1⟩] := by
    decide +kernel
  have hhas : sampleDue.HasRules [⟨["ops@site", "qa@site"], ⟨["disk"], []⟩, 1⟩] :=
    ⟨_, by simp [sampleDue, FileState.readText], hrules⟩
  have hyields : sampleDue.Yields settings [] sampleDueGroups :=
    .groups ⟨by simp [sampleDue], by decide⟩ hhas (by decide +kernel) (by decide)
  obtain ⟨sent, hsent, hheard⟩ := session_is_heard_as_requested_iff outside sampleDates
    hyields rfl rfl (by decide +kernel) []
  exact ⟨hyields, sent, hsent, fun e => (hheard e).2 (by cases e <;> decide)⟩

/-- A sender with a line end in it counts as valid, and brings in a recipient that no rule has. -/
theorem sender_brings_in_recipient :
    let settings := relaySettings "ops@site>\r\nRCPT TO:<eve@site"
    let outside := repeating "220 a\n250 b\n250 c\n250 d\n354 e\n250 f\n221 g\n"
    let processed := process settings (mailDispatcher settings.delivery outside sampleDates)
      (.contents (bytesOf "ops@site: disk".toList)) ⟨"web01", .unknown, sampleRecords⟩ []
    settings.validate = .ok () ∧ processed.1.result = .ok (.dispatched 1) ∧
    processed.2.map (fun trace => (hear .strict trace.sent).1.filter (· matches .command _)) =
      [["HELO localhost", "MAIL FROM:<ops@site>", "RCPT TO:<eve@site>", "RCPT TO:<ops@site>",
        "DATA", "QUIT"].map heardCommand] := by
  decide +kernel

end ReportRouting
