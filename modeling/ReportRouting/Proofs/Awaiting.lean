import ReportRouting.Proofs.FirstFault
import ReportRouting.Proofs.ReplyLines
import ReportRouting.Proofs.Script

/-!
One reply at a time.

A client that reads too much or too little of a reply takes every later reply for the answer to
another request. A reply that is awaited takes the lines of the relay up to the first one behind
which the reply does not go on, and no byte more. This line alone decides whether the reply is
accepted.
-/

namespace ReportRouting

open Text

/-! ### Taking a reply -/

theorem takeFrom_of_no_line {s : Incoming} (h : s.takeLine? = none) (before : List (List Char)) :
    Reply.takeFrom before s = (Reply.ofNoLine s, { s with bytes := [] }) := by
  rw [Reply.takeFrom]
  split
  case h_1 => rfl
  case h_2 hline => cases h.symm.trans hline

section

variable {s rest : Incoming} {line : List UInt8} {before : List (List Char)}

theorem takeFrom_of_takeLine? (h : s.takeLine? = some (line, rest)) :
    Reply.takeFrom before s =
      (Reply.ofLine before line).elim (·, rest) fun texts => Reply.takeFrom texts rest := by
  rw [Reply.takeFrom]
  split
  case h_1 hline => cases h.symm.trans hline
  case h_2 hline =>
    cases h.symm.trans hline
    cases Reply.ofLine before line <;> rfl

theorem takeFrom_of_ofLine_eq_inl (h : s.takeLine? = some (line, rest)) {reply : Reply}
    (hreply : Reply.ofLine before line = .inl reply) :
    Reply.takeFrom before s = (reply, rest) := by
  rw [takeFrom_of_takeLine? h, hreply, Sum.elim_inl]

theorem takeFrom_of_ofLine_eq_inr (h : s.takeLine? = some (line, rest))
    {texts : List (List Char)} (htexts : Reply.ofLine before line = .inr texts) :
    Reply.takeFrom before s = Reply.takeFrom texts rest := by
  rw [takeFrom_of_takeLine? h, htexts, Sum.elim_inr]

end

/-! ### What a line comes to -/

section

variable {line : List UInt8} {ls : List (List UInt8)} {t : List Char} {code : Nat}

theorem HasTrimmedText.exists_text? (h : HasTrimmedText line t) :
    ∃ s, text? line = some s ∧ trimEnd s.toList = t := by
  obtain ⟨s, rfl, rfl⟩ := h
  exact ⟨String.ofList s, text?_bytesOf s, by rw [String.toList_ofList]⟩

theorem text?_eq_none_of_no_text (h : ¬∃ t, HasTrimmedText line t) : text? line = none := by
  refine Option.eq_none_iff_forall_ne_some.2 fun s hs => h ?_
  exact ⟨_, s.toList, text?_eq_some_iff.1 hs, rfl⟩

theorem GoesOn.exists_said (h : GoesOn line) : ∃ u, Says line u := by
  obtain ⟨t, ht, ⟨code, hcode⟩, _⟩ := h
  exact ⟨_, t, ht, isTextAfterFour_lineText hcode⟩

theorem Says.eq_lineText {u : List Char} (h : Says line u) (ht : HasTrimmedText line t)
    (hcode : HasCode t code) : u = Reply.lineText t := by
  obtain ⟨t', ht', hu⟩ := h
  rw [ht'.unique ht] at hu
  exact hu.unique (isTextAfterFour_lineText hcode)

variable (before : List (List Char))

theorem ofLine_of_no_text (h : ¬∃ t, HasTrimmedText line t) :
    Reply.ofLine before line = .inl .notText := by
  rw [Reply.ofLine, text?_eq_none_of_no_text h]

theorem ofLine_of_no_code (ht : HasTrimmedText line t) (hcode : ¬∃ code, HasCode t code) :
    Reply.ofLine before line = .inl (.malformed (String.ofList t)) := by
  obtain ⟨s, hs, rfl⟩ := ht.exists_text?
  have hnone : Reply.code? (trimEnd s.toList) = none :=
    Option.eq_none_iff_forall_ne_some.2 fun code hsome => hcode ⟨code, code?_eq_some_iff.1 hsome⟩
  rw [Reply.ofLine, hs]
  simp only [hnone]

theorem ofLine_of_code (ht : HasTrimmedText line t) (hcode : HasCode t code) {u : List Char}
    (hu : Says line u) :
    Reply.ofLine before line =
      if (bytesOf t)[3]? = some 45 then .inr (u :: before)
      else .inl (.answer code (String.ofList ([' '].intercalate (u :: before).reverse))) := by
  rw [hu.eq_lineText ht hcode]
  obtain ⟨s, hs, rfl⟩ := ht.exists_text?
  rw [Reply.ofLine, hs]
  simp only [code?_eq_some_iff.2 hcode, goesOn_eq_true_iff hcode]

theorem ofLine_of_goesOn (hon : GoesOn line) {u : List Char} (hu : Says line u) :
    Reply.ofLine before line = .inr (u :: before) := by
  obtain ⟨t, ht, ⟨code, hcode⟩, hhyphen⟩ := hon
  rw [ofLine_of_code before ht hcode hu, if_pos hhyphen]

end

/-- Lines behind which a reply goes on only leave their texts. -/
theorem takeFrom_append {s : Incoming} {continued ls : List (List UInt8)} {lost : List UInt8}
    {texts : List (List Char)} (h : s.HasLines (continued ++ ls) lost)
    (hon : ∀ line ∈ continued, GoesOn line) (htexts : List.Forall₂ Says continued texts)
    (before : List (List Char)) :
    Reply.takeFrom before s =
      Reply.takeFrom (texts.reverse ++ before) ⟨ls.flatten ++ lost, s.fault⟩ := by
  -- The texts pile up in reverse, so the induction is for any texts that are there already.
  induction htexts generalizing s before with
  | nil => exact congrArg (Reply.takeFrom before) h.eq
  | @cons line u continued texts hu _ ih =>
      obtain ⟨hline, hon⟩ := List.forall_mem_cons.1 hon
      have hline := takeFrom_of_ofLine_eq_inr h.takeLine?_cons (ofLine_of_goesOn before hline hu)
      rw [hline, ih h.tail hon, List.reverse_cons, List.append_assoc, List.singleton_append]

theorem exists_forall₂_said {continued : List (List UInt8)}
    (hon : ∀ line ∈ continued, GoesOn line) : ∃ texts, List.Forall₂ Says continued texts :=
  exists_forall₂_iff.2 fun line hline => (hon line hline).exists_said

theorem exists_first_end (ls : List (List UInt8)) :
    (∀ line ∈ ls, GoesOn line) ∨ ∃ continued last others, ls = continued ++ last :: others ∧
      (∀ line ∈ continued, GoesOn line) ∧ ¬GoesOn last := by
  induction ls with
  | nil => exact .inl (List.forall_mem_nil _)
  | cons line ls ih =>
      by_cases hline : GoesOn line
      case neg => exact .inr ⟨[], line, ls, rfl, List.forall_mem_nil _, hline⟩
      case pos =>
        rcases ih with hall | ⟨continued, last, others, rfl, hon, hend⟩
        · exact .inl (List.forall_mem_cons.2 ⟨hline, hall⟩)
        · exact .inr ⟨line :: continued, last, others, rfl, List.forall_mem_cons.2 ⟨hline, hon⟩,
            hend⟩

/-! ### Awaiting a reply -/

/-- Why a reply is not accepted whose last line is `last`. -/
inductive Refuses (accepted : List Nat) (continued : List (List UInt8)) (last : List UInt8) :
    Failure → Prop where
  | notText (h : ¬∃ t, HasTrimmedText last t) :
      Refuses accepted continued last (.stream .notText)
  | malformed {t : List Char} (ht : HasTrimmedText last t) (hcode : ¬∃ code, HasCode t code) :
      Refuses accepted continued last (.delivery (.malformedReply (String.ofList t)))
  | unexpected {t : List Char} {code : Nat} {texts : List (List Char)} {u : List Char}
      (ht : HasTrimmedText last t) (hcode : HasCode t code) (hnot : code ∉ accepted)
      (htexts : List.Forall₂ Says continued texts) (hu : Says last u) :
      Refuses accepted continued last
        (.delivery (.unexpectedReply code (String.ofList ([' '].intercalate (texts ++ [u])))))

section

variable {accepted : List Nat} {wire : Wire} {continued others : List (List UInt8)}
  {last lost : List UInt8}

/-- The last line decides, one way or the other. -/
theorem accepts_or_refuses (hon : ∀ line ∈ continued, GoesOn line) :
    (∃ t, HasTrimmedText last t ∧ ∃ code ∈ accepted, HasCode t code) ∨
      ∃ e, Refuses accepted continued last e := by
  by_cases htext : ∃ t, HasTrimmedText last t
  case neg => exact .inr ⟨_, .notText htext⟩
  case pos =>
    obtain ⟨t, ht⟩ := htext
    by_cases hcode : ∃ code, HasCode t code
    case neg => exact .inr ⟨_, .malformed ht hcode⟩
    case pos =>
      obtain ⟨code, hcode⟩ := hcode
      by_cases hmem : code ∈ accepted
      case pos => exact .inl ⟨t, ht, code, hmem, hcode⟩
      case neg =>
        obtain ⟨texts, htexts⟩ := exists_forall₂_said hon
        exact .inr ⟨_, .unexpected ht hcode hmem htexts ⟨t, ht, isTextAfterFour_lineText hcode⟩⟩

theorem await_of_take {reply : Reply} {rest : Incoming}
    (h : Reply.take wire.unread = (reply, rest)) :
    Session.await accepted wire = (reply.check accepted, { wire with unread := rest }) := by
  rw [Session.await, h]

variable (h : wire.unread.HasLines (continued ++ last :: others) lost)
  (hon : ∀ line ∈ continued, GoesOn line)
include h hon

/-- What the last line comes to is the reply. -/
theorem await_of_ofLine {texts : List (List Char)} (htexts : List.Forall₂ Says continued texts)
    {reply : Reply} (hreply : Reply.ofLine texts.reverse last = .inl reply) :
    Session.await accepted wire =
      (reply.check accepted,
        { wire with unread := ⟨others.flatten ++ lost, wire.unread.fault⟩ }) := by
  apply await_of_take
  rw [Reply.take, takeFrom_append h hon htexts, List.append_nil,
    takeFrom_of_ofLine_eq_inl h.of_append.takeLine?_cons hreply]

theorem await_of_code (hend : ¬GoesOn last) {t : List Char} (ht : HasTrimmedText last t)
    {code : Nat} (hcode : HasCode t code) {texts : List (List Char)}
    (htexts : List.Forall₂ Says continued texts) {u : List Char} (hu : Says last u) :
    Session.await accepted wire =
      (Reply.check accepted (.answer code (String.ofList ([' '].intercalate (texts ++ [u])))),
        { wire with unread := ⟨others.flatten ++ lost, wire.unread.fault⟩ }) := by
  have hhyphen : ¬(bytesOf t)[3]? = some 45 := fun hhyphen => hend ⟨t, ht, ⟨code, hcode⟩, hhyphen⟩
  have hreply := ofLine_of_code texts.reverse ht hcode hu
  rw [if_neg hhyphen, List.reverse_cons, List.reverse_reverse] at hreply
  exact await_of_ofLine h hon htexts hreply

theorem await_of_accepted (hend : ¬GoesOn last) {t : List Char} (ht : HasTrimmedText last t)
    {code : Nat} (hcode : HasCode t code) (hmem : code ∈ accepted) :
    Session.await accepted wire =
      (.ok (), { wire with unread := ⟨others.flatten ++ lost, wire.unread.fault⟩ }) := by
  obtain ⟨texts, htexts⟩ := exists_forall₂_said hon
  have hu : Says last (Reply.lineText t) := ⟨t, ht, isTextAfterFour_lineText hcode⟩
  rw [await_of_code h hon hend ht hcode htexts hu, Reply.check, if_pos hmem]

theorem await_of_refuses (hend : ¬GoesOn last) {e : Failure}
    (he : Refuses accepted continued last e) :
    Session.await accepted wire =
      (.error e, { wire with unread := ⟨others.flatten ++ lost, wire.unread.fault⟩ }) := by
  obtain ⟨texts, htexts⟩ := exists_forall₂_said hon
  cases he with
  | notText hno => rw [await_of_ofLine h hon htexts (ofLine_of_no_text _ hno), Reply.check]
  | malformed ht hcode =>
      rw [await_of_ofLine h hon htexts (ofLine_of_no_code _ ht hcode), Reply.check]
  | unexpected ht hcode hnot htexts hu =>
      rw [await_of_code h hon hend ht hcode htexts hu, Reply.check, if_neg hnot]

end

/-- Why a reply fails that no line ends. -/
def Incoming.failureAtEnd (s : Incoming) : Failure :=
  s.fault.elim (.delivery .closedByServer) fun reason => .stream (.refused reason)

theorem Incoming.check_ofNoLine (s : Incoming) (accepted : List Nat) :
    (Reply.ofNoLine s).check accepted = .error s.failureAtEnd := by
  obtain ⟨bytes, fault⟩ := s
  cases fault <;> rfl

theorem await_of_no_end {accepted : List Nat} {wire : Wire} {ls : List (List UInt8)}
    {lost : List UInt8} (h : wire.unread.HasLines ls lost) (hon : ∀ line ∈ ls, GoesOn line) :
    Session.await accepted wire =
      (.error wire.unread.failureAtEnd, { wire with unread := ⟨[], wire.unread.fault⟩ }) := by
  obtain ⟨texts, htexts⟩ := exists_forall₂_said hon
  rw [← List.append_nil ls] at h
  have htake : Reply.take wire.unread = (Reply.ofNoLine wire.unread, ⟨[], wire.unread.fault⟩) := by
    rw [Reply.take, takeFrom_append h hon htexts, takeFrom_of_no_line h.of_append.takeLine?_nil]
    rfl
  rw [await_of_take htake, Incoming.check_ofNoLine]

theorem isThreeDigit_of_mem_requests {m : Message} {request : Request}
    (hrequest : request ∈ m.requests) : ∀ code ∈ request.accepted, IsThreeDigit code := by
  simp only [Message.requests, List.cons_append, List.mem_cons, List.mem_append, List.mem_map,
    List.not_mem_nil, or_false] at hrequest
  rcases hrequest with rfl | ⟨_, _, rfl⟩ | rfl | rfl
  all_goals
    simp only [Request.command]
    decide

/-- All codes that a client waits for have three digits. -/
theorem isThreeDigit_of_mem_script {helo : String} {messages : List Message} {request : Request}
    (hrequest : request ∈ script helo messages) : ∀ code ∈ request.accepted, IsThreeDigit code := by
  simp only [script, List.cons_append, List.mem_cons, List.mem_append, List.mem_flatMap,
    List.not_mem_nil, or_false] at hrequest
  rcases hrequest with rfl | rfl | ⟨m, _, hrequest⟩ | rfl
  case inr.inr.inl => exact isThreeDigit_of_mem_requests hrequest
  all_goals
    simp only [Request.command, Request.banner]
    decide

/-- A reply that is awaited takes whole lines, up to the first one behind which it does not go on,
and leaves whatever comes behind this line. It is accepted if the first bytes of this line are the
digits of an accepted code, whatever stands in the lines before. An error for a code that is not
accepted has the texts of all the lines. If there is no such line, then the relay has closed the
connection, or there is a fault in reading, which is the one that is reported. -/
theorem await_takes_one_reply {accepted : List Nat}
    (haccepted : ∀ code ∈ accepted, IsThreeDigit code) (wire : Wire) :
    (∀ helo messages, ∀ request ∈ script helo messages,
      ∀ code ∈ request.accepted, IsThreeDigit code) ∧
    ∃ ls lost, wire.unread.HasLines ls lost ∧
      ((∀ line ∈ ls, GoesOn line) ∧
          (Session.await accepted wire).2 =
            { wire with unread := ⟨[], wire.unread.fault⟩ } ∧
          (wire.unread.fault = none →
            (Session.await accepted wire).1 = .error (.delivery .closedByServer)) ∧
          (∀ reason, wire.unread.fault = some reason →
            (Session.await accepted wire).1 = .error (.stream (.refused reason))) ∨
        ∃ continued last others, ls = continued ++ last :: others ∧
          (∀ line ∈ continued, GoesOn line) ∧ ¬GoesOn last ∧
          (Session.await accepted wire).2 =
            { wire with unread := ⟨others.flatten ++ lost, wire.unread.fault⟩ } ∧
          ((Session.await accepted wire).1 = .ok () ↔
            ∃ t, HasTrimmedText last t ∧
              ∃ code ∈ accepted, (bytesOf t).take 3 = bytesOf (digits code)) ∧
          ∀ e, (Session.await accepted wire).1 = .error e ↔ Refuses accepted continued last e) := by
  refine ⟨fun _ _ _ hrequest => isThreeDigit_of_mem_script hrequest, ?_⟩
  obtain ⟨ls, lost, hls⟩ := wire.unread.exists_hasLines
  refine ⟨ls, lost, hls, ?_⟩
  rcases exists_first_end ls with hall | ⟨continued, last, others, rfl, hon, hend⟩
  case inl =>
    have hrun : Session.await accepted wire = _ := await_of_no_end hls hall
    rw [hrun, Incoming.failureAtEnd]
    exact .inl ⟨hall, rfl, fun hclosed => by rw [hclosed]; rfl, fun _ hfault => by rw [hfault]; rfl⟩
  case inr =>
    refine .inr ⟨continued, last, others, rfl, hon, hend, ?_⟩
    have haccepts : (∃ t, HasTrimmedText last t ∧
          ∃ code ∈ accepted, (bytesOf t).take 3 = bytesOf (digits code)) ↔
        ∃ t, HasTrimmedText last t ∧ ∃ code ∈ accepted, HasCode t code :=
      exists_congr fun t => and_congr_right' <| exists_congr fun code =>
        and_congr_right fun hmem => (hasCode_iff_of_isThreeDigit (haccepted code hmem)).symm
    have hrefused {e : Failure} (he : Refuses accepted continued last e) :=
      await_of_refuses hls hon hend he
    rw [haccepts]
    rcases accepts_or_refuses hon with hcode | ⟨e, he⟩
    · obtain ⟨t, ht, code, hmem, hcode⟩ := hcode
      have hrun := await_of_accepted hls hon hend ht hcode hmem
      rw [hrun]
      refine ⟨rfl, iff_of_true rfl ⟨t, ht, code, hmem, hcode⟩, fun e => iff_of_false nofun ?_⟩
      intro he
      have hfail := hrefused he
      rw [hrun] at hfail
      cases hfail
    · have hrun := hrefused he
      refine ⟨by rw [hrun], iff_of_false (by rw [hrun]; nofun) ?_, fun e' => ⟨?_, ?_⟩⟩
      · rintro ⟨t, ht, code, hmem, hcode⟩
        have hok := await_of_accepted hls hon hend ht hcode hmem
        rw [hrun] at hok
        cases hok
      · rw [hrun]
        rintro ⟨⟩
        exact he
      · intro he'
        rw [hrefused he']

/-- The code of the first line is accepted, but the second one has another; the fifth byte of this
one is the second byte of a character. The next reply has not come to its end when the connection
is reset. -/
def wideReply : Wire :=
  ⟨⟨bytesOf "250-first \r\n550é no\n251 next".toList, some "connection reset"⟩, [], none⟩

def wideReplyError : Failure :=
  .delivery (.unexpectedReply 550 "first ")

theorem await_takes_one_reply_of_sample :
    (∀ code ∈ [250, 251], IsThreeDigit code) ∧
    ∃ continued last others lost,
      wideReply.unread.HasLines (continued ++ last :: others) lost ∧
      (∀ line ∈ continued, GoesOn line) ∧ ¬GoesOn last ∧
      others.flatten ++ lost = bytesOf "251 next".toList ∧
      Refuses [250, 251] continued last wideReplyError := by
  have hcodes : ∀ code ∈ [250, 251], IsThreeDigit code := by decide
  have htake : Reply.take wideReply.unread =
      (.answer 550 "first ", ⟨bytesOf "251 next".toList, some "connection reset"⟩) := by
    decide +kernel
  have hrun : Session.await [250, 251] wideReply = (.error wideReplyError,
      ⟨⟨bytesOf "251 next".toList, some "connection reset"⟩, [], none⟩) := await_of_take htake
  obtain ⟨_, ls, lost, hls, hreply⟩ := await_takes_one_reply hcodes wideReply
  refine ⟨hcodes, ?_⟩
  obtain ⟨_, hnothing, _⟩ | ⟨continued, last, others, rfl, hon, hend, hrest, _, herror⟩ := hreply
  · rw [hrun] at hnothing
    cases congrArg (fun wire => wire.unread.bytes) hnothing
  · rw [hrun] at hrest herror
    have hbytes := congrArg (fun wire => wire.unread.bytes) hrest
    exact ⟨continued, last, others, lost, hls, hon, hend, hbytes.symm,
      (herror wideReplyError).1 rfl⟩

end ReportRouting
