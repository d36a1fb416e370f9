import Mathlib.Data.List.Forall2
import ReportRouting.Mail.Delivery
import ReportRouting.Proofs.Content
import ReportRouting.Proofs.MailHeaders

/-!
The same mails with other dates.

Mails that are made at another time bear other dates, which may be longer or shorter. All else in
their texts, in the requests for them and in the runs for them is the same. Where writing breaks
off at the same place of both, the last date may have been cut.
-/

namespace ReportRouting

open Text

/-! ### Bytes with other dates -/

def dateHeader (date : Stamp) : List Char :=
  "Date: ".toList ++ date.mailText.toList

-- Rewriting with the definition itself would have Lean evaluate the name of the header.
theorem dateHeader_eq (date : Stamp) :
    dateHeader date = "Date: ".toList ++ date.mailText.toList := rfl

namespace Text

/-- Two sequences of bytes are the same, but that some headers with a date in the first are headers
with the date it is paired with in the second. -/
inductive SameButDates (paired : Stamp → Stamp → Prop) : List UInt8 → List UInt8 → Prop
  | same (bytes : List UInt8) : SameButDates paired bytes bytes
  | date {date date' : Stamp} (is_pair : paired date date') :
      SameButDates paired (bytesOf (dateHeader date)) (bytesOf (dateHeader date'))
  | append {front front' back back' : List UInt8} (front_same : SameButDates paired front front')
      (back_same : SameButDates paired back back') :
      SameButDates paired (front ++ back) (front' ++ back')

/-- The same for bytes that may end within a date. Of a date that is paired with itself the same
part is there in both. -/
inductive SameUpToCut (paired : Stamp → Stamp → Prop) : List UInt8 → List UInt8 → Prop
  | whole {bytes bytes' : List UInt8} (is_same : SameButDates paired bytes bytes') :
      SameUpToCut paired bytes bytes'
  | cut {front front' : List UInt8} (front_same : SameButDates paired front front')
      {date date' : Stamp} (is_pair : paired date date') {n n' : Nat}
      (same_part : date = date' → n = n') :
      SameUpToCut paired
        (front ++ (bytesOf "Date: ".toList ++ (bytesOf date.mailText.toList).take n))
        (front' ++ (bytesOf "Date: ".toList ++ (bytesOf date'.mailText.toList).take n'))

section

variable {paired : Stamp → Stamp → Prop}

theorem SameButDates.eq (hpaired : ∀ date date', paired date date' → date = date')
    {bytes bytes' : List UInt8} (h : SameButDates paired bytes bytes') : bytes = bytes' := by
  induction h with
  | same => rfl
  | date is_pair => rw [hpaired _ _ is_pair]
  | append _ _ hfront hback => rw [hfront, hback]

theorem SameUpToCut.eq (hpaired : ∀ date date', paired date date' → date = date')
    {bytes bytes' : List UInt8} (h : SameUpToCut paired bytes bytes') : bytes = bytes' := by
  cases h with
  | whole is_same => exact is_same.eq hpaired
  | cut front_same is_pair same_part =>
      obtain rfl := hpaired _ _ is_pair
      rw [front_same.eq hpaired, same_part rfl]

theorem SameUpToCut.of_eq {bytes bytes' : List UInt8} (h : bytes = bytes') :
    SameUpToCut paired bytes bytes' :=
  h ▸ .whole (.same bytes)

theorem SameUpToCut.append {front front' back back' : List UInt8}
    (hfront : SameButDates paired front front') (hback : SameUpToCut paired back back') :
    SameUpToCut paired (front ++ back) (front' ++ back') := by
  cases hback with
  | whole is_same => exact .whole (hfront.append is_same)
  | cut front_same is_pair same_part =>
      have hcut := SameUpToCut.cut (hfront.append front_same) is_pair same_part
      rwa [List.append_assoc, List.append_assoc] at hcut

/-- A cut in a header with a date has its counterpart in the header with the other date. -/
theorem exists_cut_of_date {date date' : Stamp} (h : paired date date') {n : Nat}
    (hn : n < (bytesOf (dateHeader date)).length) :
    ∃ n' < (bytesOf (dateHeader date')).length,
      SameUpToCut paired ((bytesOf (dateHeader date)).take n)
        ((bytesOf (dateHeader date')).take n') := by
  have hne : 0 < (bytesOf date'.mailText.toList).length := by
    obtain ⟨c, s, hs⟩ := List.exists_cons_of_ne_nil date'.mailText_ne_nil
    rw [hs, length_bytesOf_cons]
    exact Nat.add_pos_left (Char.utf8Size_pos c) _
  simp only [dateHeader_eq, bytesOf_append, List.length_append] at hn ⊢
  rcases Nat.lt_or_ge n (bytesOf "Date: ".toList).length with hname | hvalue
  · refine ⟨n, by omega, ?_⟩
    rw [List.take_append_of_le_length (Nat.le_of_lt hname),
      List.take_append_of_le_length (Nat.le_of_lt hname)]
    exact .whole (.same _)
  · obtain ⟨k, rfl⟩ := Nat.exists_eq_add_of_le hvalue
    -- Nothing but the name is left of another date.
    refine ⟨(bytesOf "Date: ".toList).length + if date = date' then k else 0, ?_, ?_⟩
    · split
      case isTrue heq =>
        subst heq
        exact hn
      case isFalse => omega
    · rw [List.take_length_add_append, List.take_length_add_append]
      exact SameUpToCut.cut (.same []) h fun heq => (if_pos heq).symm

/-- A cut in some bytes has its counterpart in the same bytes with other dates. -/
theorem SameButDates.exists_cut {bytes bytes' : List UInt8} (h : SameButDates paired bytes bytes')
    {n : Nat} (hn : n < bytes.length) :
    ∃ n' < bytes'.length, SameUpToCut paired (bytes.take n) (bytes'.take n') := by
  induction h generalizing n with
  | same => exact ⟨n, hn, .whole (.same _)⟩
  | date is_pair => exact exists_cut_of_date is_pair hn
  | @append front front' back back' front_same _ hfront hback =>
      rw [List.length_append] at hn ⊢
      rcases Nat.lt_or_ge n front.length with hlt | hge
      · obtain ⟨n', hn', hcut⟩ := hfront hlt
        refine ⟨n', by omega, ?_⟩
        rwa [List.take_append_of_le_length (Nat.le_of_lt hlt),
          List.take_append_of_le_length (Nat.le_of_lt hn')]
      · obtain ⟨k, rfl⟩ := Nat.exists_eq_add_of_le hge
        obtain ⟨k', hk', hcut⟩ := hback (Nat.lt_of_add_lt_add_left hn)
        refine ⟨front'.length + k', by omega, ?_⟩
        rw [List.take_length_add_append, List.take_length_add_append]
        exact .append front_same hcut

end

end Text

/-! ### Messages with other dates -/

theorem Text.dropReturn_of_onOneLine {line : List Char} (h : OnOneLine line) :
    dropReturn line = line :=
  dropReturn_eq_self fun hlast => (h '\r' (List.mem_of_getLast? hlast)).1 rfl

namespace Message

def dated (m : Message) (date : Stamp) : Message :=
  { m with date }

theorem headerLines_dated (m : Message) (date : Stamp) :
    (m.dated date).headerLines = m.headerLines.take 3 ++ [dateHeader date] := rfl

theorem text_dated (m : Message) (date : Stamp) :
    (m.dated date).text = (m.headerLines.take 3).flatMap (· ++ ['\n']) ++
      (dateHeader date ++ '\n' :: '\n' :: endLine m.body.toList) := by
  rw [text_eq_append, headerLines_dated, List.flatMap_append, List.append_assoc]
  simp [dated]

theorem lines_text_dated (m : Message) (date : Stamp) :
    lines (m.dated date).text = (m.headerLines.take 3).map dropReturn ++
      dateHeader date :: lines ('\n' :: endLine m.body.toList) := by
  have hdate : OnOneLine (dateHeader date) :=
    ((m.dated date).forall_mem_headerLines _ (by rw [headerLines_dated]; simp)).2
  have hlines : ∀ line ∈ (m.dated date).headerLines, '\n' ∉ line := fun line hline =>
    ((m.dated date).forall_mem_headerLines line hline).2.newline_not_mem
  rw [text_eq_append, lines_flatMap_append hlines, headerLines_dated, List.map_append,
    List.map_singleton, dropReturn_of_onOneLine hdate, List.append_assoc]
  rfl

/-- Two messages are the same but for their dates. -/
inductive SameButDate (paired : Stamp → Stamp → Prop) : Message → Message → Prop
  | dated (m : Message) {date date' : Stamp} (is_pair : paired date date') :
      SameButDate paired (m.dated date) (m.dated date')

namespace SameButDate

variable {paired : Stamp → Stamp → Prop} {m m' : Message}

theorem text (h : m.SameButDate paired m') :
    SameButDates paired (bytesOf m.text) (bytesOf m'.text) := by
  cases h with
  | dated m is_pair =>
      rw [text_dated, text_dated]
      simp only [bytesOf_append]
      exact .append (.same _) (.append (.date is_pair) (.same _))

theorem content (h : m.SameButDate paired m') :
    SameButDates paired (bytesOf (Session.content m)) (bytesOf (Session.content m')) := by
  cases h with
  | dated m is_pair =>
      have hdate : ∀ date : Stamp, Session.stuffed (dateHeader date) = dateHeader date := by
        intro date
        simp [Session.stuffed, dateHeader_eq]
      simp only [Session.content, lines_text_dated, List.flatMap_append, List.flatMap_cons, hdate,
        bytesOf_append]
      exact .append (.append (.same _) (.append (.append (.date is_pair) (.same _)) (.same _)))
        (.same _)

end SameButDate

end Message

/-! ### Requests -/

/-- Two requests that differ at most in dates. -/
structure Request.SameButDates (paired : Stamp → Stamp → Prop) (request request' : Request) :
    Prop where
  bytes : Text.SameButDates paired request.bytes request'.bytes
  accepted : request.accepted = request'.accepted

section

variable {paired : Stamp → Stamp → Prop}

theorem Request.sameButDates_mk {bytes bytes' : List UInt8}
    (h : Text.SameButDates paired bytes bytes') (accepted : List Nat) :
    Request.SameButDates paired ⟨bytes, accepted⟩ ⟨bytes', accepted⟩ :=
  ⟨h, rfl⟩

theorem Request.sameButDates_refl (request : Request) : request.SameButDates paired request :=
  ⟨.same _, rfl⟩

theorem Message.envelope_dated (m : Message) (date : Stamp) :
    (m.dated date).envelope = m.envelope := rfl

theorem Message.SameButDate.requests {m m' : Message} (h : m.SameButDate paired m') :
    List.Forall₂ (Request.SameButDates paired) m.requests m'.requests := by
  have henvelope : m.envelope = m'.envelope := by
    cases h with
    | dated m => rw [envelope_dated, envelope_dated]
  have hcontent := Request.sameButDates_mk h.content [250]
  rw [requests_eq, requests_eq, ← henvelope]
  exact List.rel_append (List.forall₂_same.2 fun request _ => request.sameButDates_refl)
    (.cons hcontent .nil)

theorem forall₂_script {messages messages' : List Message}
    (h : List.Forall₂ (Message.SameButDate paired) messages messages') (helo : String) :
    List.Forall₂ (Request.SameButDates paired) (script helo messages) (script helo messages') := by
  have hmessages : List.Forall₂ (Request.SameButDates paired)
      (messages.flatMap Message.requests) (messages'.flatMap Message.requests) := by
    induction h with
    | nil => exact .nil
    | cons hm _ ih => exact List.rel_append hm.requests ih
  exact List.rel_append
    (.cons (Request.sameButDates_refl _) (.cons (Request.sameButDates_refl _) hmessages))
    (.cons (Request.sameButDates_refl _) .nil)

end

/-! ### Deliveries -/

/-- Messages that are made of the same groups differ at most in their dates. -/
theorem DeliverySettings.forall₂_messages {paired : Stamp → Stamp → Prop} {dates dates' : Dates}
    (h : ∀ i, paired (dates i) (dates' i)) (d : DeliverySettings) (host : String)
    (groups : List Group) :
    List.Forall₂ (Message.SameButDate paired) (d.messages dates host groups)
      (d.messages dates' host groups) := by
  induction groups generalizing dates dates' with
  | nil => exact .nil
  | cons g groups ih =>
      rw [messages_cons, messages_cons]
      have hm := Message.SameButDate.dated
        ⟨d.sender, g.recipients, d.subjectFor host, dates 0, g.body⟩ (h 0)
      exact .cons hm (ih fun i => h (i + 1))

end ReportRouting
