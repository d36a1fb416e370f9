import ReportRouting.Proofs.OtherDates
import ReportRouting.Proofs.ProgramRuns

/-!
Delivery by a worker.

A worker that is left with groups does what a delivery that is awaited does, and only the dates in
the mails tell the two apart: the relay is sent the same requests, or the program has the same runs,
and both fail for the same reason or not at all, whatever the relay says, wherever the connection
breaks and however the runs end. What the awaited one gives back as a failure, the worker gives a
notice of.
-/

namespace ReportRouting

open Text

variable {paired : Stamp → Stamp → Prop}

/-! ### Sessions -/

/-- What two connections let through ends at the same place of two scripts: behind both of them,
or within requests that stand at the same place. -/
inductive RoomsAgree (paired : Stamp → Stamp → Prop) :
    List Request → List Request → Option Limit → Option Limit → Prop
  | ample {requests requests' : List Request} {room room' : Option Limit}
      (fits : Fits room (scriptBytes requests).length)
      (fits' : Fits room' (scriptBytes requests').length) :
      RoomsAgree paired requests requests' room room'
  | cut {request request' : Request} {requests requests' : List Request} {limit limit' : Limit}
      (short : limit.bytes < request.bytes.length)
      (short' : limit'.bytes < request'.bytes.length)
      (same_part : SameUpToCut paired (request.bytes.take limit.bytes)
        (request'.bytes.take limit'.bytes))
      (same_reason : limit.reason = limit'.reason) :
      RoomsAgree paired (request :: requests) (request' :: requests') (some limit) (some limit')
  | later {request request' : Request} {requests requests' : List Request}
      {room room' : Option Limit} (fits : Fits room request.bytes.length)
      (fits' : Fits room' request'.bytes.length)
      (agree : RoomsAgree paired requests requests' (room.map (·.less request.bytes.length))
        (room'.map (·.less request'.bytes.length))) :
      RoomsAgree paired (request :: requests) (request' :: requests') room room'

section

variable {request request' : Request} {requests requests' : List Request}
  {room room' : Option Limit}

/-- Either both of the first requests fit or neither does. -/
theorem RoomsAgree.cases_cons
    (h : RoomsAgree paired (request :: requests) (request' :: requests') room room') :
    (Fits room request.bytes.length ∧ Fits room' request'.bytes.length ∧
        RoomsAgree paired requests requests' (room.map (·.less request.bytes.length))
          (room'.map (·.less request'.bytes.length))) ∨
      ∃ limit limit', room = some limit ∧ room' = some limit' ∧
        limit.bytes < request.bytes.length ∧ limit'.bytes < request'.bytes.length ∧
        SameUpToCut paired (request.bytes.take limit.bytes) (request'.bytes.take limit'.bytes) ∧
        limit.reason = limit'.reason := by
  cases h with
  | ample fits fits' =>
      rw [scriptBytes_cons, List.length_append] at fits fits'
      have hrequest := fits.of_le (Nat.le_add_right _ _)
      have hrequest' := fits'.of_le (Nat.le_add_right _ _)
      exact .inl ⟨hrequest, hrequest', .ample ((fits_add_iff hrequest).1 fits)
        ((fits_add_iff hrequest').1 fits')⟩
  | cut short short' same_part same_reason =>
      exact .inr ⟨_, _, rfl, rfl, short, short', same_part, same_reason⟩
  | later fits fits' agree => exact .inl ⟨fits, fits', agree⟩

/-- Whatever room there is, there is room that ends at the same place of a script with other
dates. -/
theorem exists_roomsAgree
    (h : List.Forall₂ (Request.SameButDates paired) requests requests') (room : Option Limit) :
    ∃ room', RoomsAgree paired requests requests' room room' := by
  induction h generalizing room with
  | nil => exact ⟨none, .ample (fun _ _ => Nat.zero_le _) nofun⟩
  | @cons request request' requests requests' hrequest _ ih =>
      by_cases hfits : Fits room request.bytes.length
      case pos =>
        obtain ⟨rest, hrest⟩ := ih (room.map (·.less request.bytes.length))
        let longer (limit : Limit) : Limit :=
          { limit with bytes := limit.bytes + request'.bytes.length }
        have hless : (rest.map longer).map (·.less request'.bytes.length) = rest := by
          simp [Function.comp_def, Limit.less, longer]
        have hfits' : Fits (rest.map longer) request'.bytes.length := by
          intro limit hlimit
          obtain ⟨_, _, rfl⟩ := Option.map_eq_some_iff.1 hlimit
          exact Nat.le_add_left _ _
        exact ⟨rest.map longer, .later hfits hfits' (hless.symm ▸ hrest)⟩
      case neg =>
        obtain ⟨limit, rfl, hshort⟩ := exists_limit_of_not_fits hfits
        obtain ⟨n, hn, hcut⟩ := hrequest.bytes.exists_cut hshort
        exact ⟨some ⟨n, limit.reason⟩, .cut hshort hn hcut rfl⟩

theorem roomsAgree_refl (requests : List Request) (room : Option Limit) :
    RoomsAgree paired requests requests room room := by
  induction requests generalizing room with
  | nil => exact .ample (fun _ _ => Nat.zero_le _) fun _ _ => Nat.zero_le _
  | cons request requests ih =>
      by_cases hfits : Fits room request.bytes.length
      case pos => exact .later hfits hfits (ih _)
      case neg =>
        obtain ⟨limit, rfl, hshort⟩ := exists_limit_of_not_fits hfits
        exact .cut hshort hshort (.whole (.same _)) rfl

end

theorem Session.perform_of_roomsAgree {requests requests' : List Request}
    {room room' : Option Limit}
    (h : List.Forall₂ (Request.SameButDates paired) requests requests')
    (hrooms : RoomsAgree paired requests requests' room room') (unread : Incoming)
    {written written' : List UInt8} (hwritten : SameButDates paired written written') :
    let run := perform requests ⟨unread, written, room⟩
    let run' := perform requests' ⟨unread, written', room'⟩
    run.1 = run'.1 ∧ SameUpToCut paired run.2.written run'.2.written := by
  -- Both sessions stop at the same request, if they do, for the replies are the same.
  induction h generalizing unread written written' room room' with
  | nil => exact ⟨rfl, .whole hwritten⟩
  | @cons request request' requests requests' hrequest _ ih =>
      rw [perform, perform]
      rcases hrooms.cases_cons with ⟨hfits, hfits', hrest⟩ |
        ⟨limit, limit', rfl, rfl, hshort, hshort', hpart, hreason⟩
      · have hmore := hwritten.append hrequest.bytes
        have hexchange : exchange request ⟨unread, written, room⟩ = _ := exchange_of_fits hfits
        have hexchange' : exchange request' ⟨unread, written', room'⟩ = _ :=
          exchange_of_fits hfits'
        rw [← hrequest.accepted] at hexchange'
        cases hcheck : (Reply.take unread).1.check request.accepted with
        | error failure =>
            rw [hcheck] at hexchange hexchange'
            rw [bind_of_error hexchange, bind_of_error hexchange']
            exact ⟨rfl, .whole hmore⟩
        | ok _ =>
            rw [hcheck] at hexchange hexchange'
            rw [bind_of_ok hexchange, bind_of_ok hexchange']
            exact ih hrest _ hmore
      · have hexchange : exchange request ⟨unread, written, some limit⟩ = _ :=
          exchange_of_short hshort
        have hexchange' : exchange request' ⟨unread, written', some limit'⟩ = _ :=
          exchange_of_short hshort'
        rw [bind_of_error hexchange, bind_of_error hexchange', hreason]
        exact ⟨rfl, .append hwritten hpart⟩

/-! ### Runs -/

structure Run.SameButDates (paired : Stamp → Stamp → Prop) (run run' : Run) : Prop where
  arguments : run.arguments = run'.arguments
  input : Text.SameButDates paired (bytesOf run.input) (bytesOf run'.input)

theorem Message.SameButDate.run {m m' : Message} (h : m.SameButDate paired m') :
    m.run.SameButDates paired m'.run where
  arguments := by cases h; rfl
  input := h.text

theorem runAllFrom_of_endingsFrom_eq {behave behave' : Behaviour} {messages messages' : List Message}
    (h : List.Forall₂ (Message.SameButDate paired) messages messages') {number : Nat}
    (hends : endingsFrom behave number messages = endingsFrom behave' number messages')
    (program : String) :
    (runAllFrom program behave number messages).2 =
        (runAllFrom program behave' number messages').2 ∧
      List.Forall₂ (Run.SameButDates paired) (runAllFrom program behave number messages).1
        (runAllFrom program behave' number messages').1 := by
  induction h generalizing number with
  | nil => exact ⟨rfl, .nil⟩
  | @cons m m' messages messages' hm _ ih =>
      rw [endingsFrom, endingsFrom, List.cons.injEq] at hends
      obtain ⟨hend, hends⟩ := hends
      rw [runAllFrom, runAllFrom, ← hend]
      cases (behave number m.run).check program with
      | error failure => exact ⟨rfl, .cons hm.run .nil⟩
      | ok _ =>
          obtain ⟨hresult, hruns⟩ := ih hends
          exact ⟨hresult, .cons hm.run hruns⟩

theorem endingsFrom_eq_mapIdx (behave : Behaviour) (number : Nat) (messages : List Message) :
    endingsFrom behave number messages =
      messages.mapIdx fun i m => behave (number + i) m.run := by
  induction messages generalizing number with
  | nil => rfl
  | cons m messages ih =>
      rw [endingsFrom, ih, List.mapIdx_cons]
      simp only [Nat.add_zero, Nat.add_assoc, Nat.add_comm 1]

theorem exists_endingsFrom_eq (behave : Behaviour) {messages messages' : List Message}
    (h : messages.length = messages'.length) :
    ∃ behave', endingsFrom behave 0 messages = endingsFrom behave' 0 messages' := by
  refine ⟨fun i _ => (endingsFrom behave 0 messages).getD i (.notStarted ""), ?_⟩
  rw [endingsFrom_eq_mapIdx _ _ messages', endingsFrom_eq_mapIdx]
  refine List.ext_getElem (by simpa using h) fun i hi _ => ?_
  rw [List.length_mapIdx] at hi
  simp [List.getD_eq_getElem?_getD, hi]

/-! ### The outside -/

/-- Two relays act alike in sessions with these scripts. -/
inductive Connection.Agrees (paired : Stamp → Stamp → Prop) (requests requests' : List Request) :
    Connection → Connection → Prop
  | established (replies : Incoming) {room room' : Option Limit}
      (agree : RoomsAgree paired requests requests' room room') :
      Agrees paired requests requests' (.established replies room) (.established replies room')
  | failed {c : Connection} (no_session : ∀ replies room, c ≠ .established replies room) :
      Agrees paired requests requests' c c

/-- Two dates of deliveries that stand at the same place. -/
def Dates.Paired (dates dates' : Dates) (date date' : Stamp) : Prop :=
  ∃ i, dates i = date ∧ dates' i = date'

theorem Dates.eq_of_paired {dates : Dates} {date date' : Stamp}
    (h : dates.Paired dates date date') : date = date' := by
  obtain ⟨i, rfl, rfl⟩ := h
  rfl

/-- Where the mails bear other dates, the outside acts alike: a relay says the same and takes in as
much of the requests as before, and the runs of a program end in the same way. -/
structure Outside.AgreesOn (d : DeliverySettings) (dates dates' : Dates) (host : String)
    (groups : List Group) (outside outside' : Outside) : Prop where
  relay : ∀ server, (outside.relay server d.smtpPort d.timeout).Agrees (dates.Paired dates')
    (script d.smtpHelo (d.messages dates host groups))
    (script d.smtpHelo (d.messages dates' host groups))
    (outside'.relay server d.smtpPort d.timeout)
  program : ∀ path, endingsFrom (outside.program path) 0 (d.messages dates host groups) =
    endingsFrom (outside'.program path) 0 (d.messages dates' host groups)

section

variable (d : DeliverySettings) (dates dates' : Dates) (host : String) (groups : List Group)

theorem DeliverySettings.forall₂_messages_paired :
    List.Forall₂ (Message.SameButDate (dates.Paired dates')) (d.messages dates host groups)
      (d.messages dates' host groups) :=
  d.forall₂_messages (fun i => ⟨i, rfl, rfl⟩) host groups

/-- However an outside acts, there is one that acts alike with other dates. -/
theorem Outside.exists_agreesOn (outside : Outside) :
    ∃ outside', AgreesOn d dates dates' host groups outside outside' := by
  have hmessages := d.forall₂_messages_paired dates dates' host groups
  have hrelay : ∀ c : Connection, ∃ c', c.Agrees (dates.Paired dates')
      (script d.smtpHelo (d.messages dates host groups))
      (script d.smtpHelo (d.messages dates' host groups)) c' := by
    intro c
    by_cases hc : ∃ replies room, c = .established replies room
    · obtain ⟨replies, room, rfl⟩ := hc
      obtain ⟨room', hroom⟩ := exists_roomsAgree (forall₂_script hmessages d.smtpHelo) room
      exact ⟨_, .established replies hroom⟩
    · exact ⟨c, .failed fun replies room heq => hc ⟨replies, room, heq⟩⟩
  have hprogram := fun path => exists_endingsFrom_eq (outside.program path) hmessages.length_eq
  choose relay hrelay using hrelay
  choose program hprogram using hprogram
  exact ⟨⟨fun server port timeout => relay (outside.relay server port timeout), program⟩,
    fun _ => hrelay _, hprogram⟩

theorem Outside.agreesOn_refl (outside : Outside) :
    AgreesOn d dates dates host groups outside outside where
  relay server := by
    cases outside.relay server d.smtpPort d.timeout with
    | established replies room => exact .established replies (roomsAgree_refl _ room)
    | _ => exact .failed nofun
  program _ := rfl

end

/-! ### Deliveries -/

/-- Two traces that differ at most in the dates of mails; what a relay was sent may end within such
a date. -/
structure Trace.SameButDates (paired : Stamp → Stamp → Prop) (trace trace' : Trace) : Prop where
  sent : SameUpToCut paired trace.sent trace'.sent
  runs : List.Forall₂ (Run.SameButDates paired) trace.runs trace'.runs

theorem Trace.sameButDates_nothing : nothing.SameButDates paired nothing :=
  ⟨.whole (.same []), .nil⟩

theorem Trace.SameButDates.eq (hpaired : ∀ date date', paired date date' → date = date')
    {trace trace' : Trace} (h : trace.SameButDates paired trace') : trace = trace' := by
  have hruns : trace.runs = trace'.runs := by
    refine List.forall₂_eq_eq_eq ▸ h.runs.imp ?_
    rintro ⟨arguments, input⟩ ⟨arguments', input'⟩ ⟨hargs, hinput⟩
    exact congrArg₂ Run.mk hargs (bytesOf_inj.1 (hinput.eq hpaired))
  obtain ⟨sent, runs⟩ := trace
  exact congrArg₂ Trace.mk (h.sent.eq hpaired) hruns

theorem sendAll_relay_of_agrees {outside outside' : Outside} {messages messages' : List Message}
    (hmessages : List.Forall₂ (Message.SameButDate paired) messages messages')
    {server helo : String} {port : UInt16} {timeout : UInt64}
    (h : (outside.relay server port timeout).Agrees paired (script helo messages)
      (script helo messages') (outside'.relay server port timeout)) :
    let t : Transport := .relay server port helo timeout
    (t.sendAll outside messages).2 = (t.sendAll outside' messages').2 ∧
      (t.sendAll outside messages).1.SameButDates paired (t.sendAll outside' messages').1 := by
  simp only [Transport.sendAll]
  generalize outside.relay server port timeout = c at h
  generalize outside'.relay server port timeout = c' at h
  cases h with
  | @established replies room room' agree =>
      obtain ⟨hresult, hwritten⟩ := Session.perform_of_roomsAgree
        (forall₂_script hmessages helo) agree replies (.same [])
      rw [← Session.converse_eq_perform, ← Session.converse_eq_perform] at hresult hwritten
      exact ⟨hresult, hwritten, .nil⟩
  | failed no_session =>
      cases c with
      | established replies room => exact absurd rfl (no_session replies room)
      | _ => exact ⟨rfl, Trace.sameButDates_nothing⟩

theorem sendAll_program_of_endingsFrom_eq {outside outside' : Outside}
    {messages messages' : List Message}
    (hmessages : List.Forall₂ (Message.SameButDate paired) messages messages') {path : String}
    (h : endingsFrom (outside.program path) 0 messages =
      endingsFrom (outside'.program path) 0 messages') :
    let t : Transport := .program path
    (t.sendAll outside messages).2 = (t.sendAll outside' messages').2 ∧
      (t.sendAll outside messages).1.SameButDates paired (t.sendAll outside' messages').1 := by
  obtain ⟨hresult, hruns⟩ := runAllFrom_of_endingsFrom_eq hmessages h path
  exact ⟨hresult, .whole (.same []), hruns⟩

/-- The way that mails go with some settings, if there is one. -/
inductive DeliverySettings.Uses (d : DeliverySettings) : Option Transport → Prop
  | relay {server : String} (is_set : d.smtpServer = some server) :
      Uses d (some (.relay server d.smtpPort d.smtpHelo d.timeout))
  | program {path : String} (no_relay : d.smtpServer = none) (is_set : d.program = some path)
      (not_empty : path ≠ "") : Uses d (some (.program path))
  | neither (no_relay : d.smtpServer = none) (no_program : ∀ path ∈ d.program, path = "") :
      Uses d none

theorem DeliverySettings.uses_cases (d : DeliverySettings) :
    (∃ t, d.Uses (some t) ∧ d.transport = .ok t) ∨
      (d.Uses none ∧ d.transport = .error .noTransport) := by
  cases hserver : d.smtpServer with
  | some server => exact .inl ⟨_, .relay hserver, transport_of_server hserver⟩
  | none =>
      by_cases hpath : ∃ path, d.program = some path ∧ path ≠ ""
      · obtain ⟨path, hprogram, hne⟩ := hpath
        exact .inl ⟨_, .program hserver hprogram hne, transport_of_program hserver hprogram hne⟩
      · have hnone : ∀ path ∈ d.program, path = "" := fun path hprogram =>
          Decidable.byContradiction fun hne => hpath ⟨path, hprogram, hne⟩
        exact .inr ⟨.neither hserver hnone, transport_of_neither hserver hnone⟩

theorem deliver_of_agreesOn {d : DeliverySettings} {dates dates' : Dates} {host : String}
    {groups : List Group} {outside outside' : Outside}
    (h : outside.AgreesOn d dates dates' host groups outside') :
    (deliver d outside dates host groups).2 = (deliver d outside' dates' host groups).2 ∧
      (deliver d outside dates host groups).1.SameButDates (dates.Paired dates')
        (deliver d outside' dates' host groups).1 := by
  by_cases hgroups : groups = []
  · rw [hgroups, deliver_nil, deliver_nil]
    exact ⟨rfl, Trace.sameButDates_nothing⟩
  · have hmessages := d.forall₂_messages_paired dates dates' host groups
    rcases d.uses_cases with ⟨t, huses, ht⟩ | ⟨-, hnone⟩
    · rw [deliver_of_transport_eq_ok ht hgroups, deliver_of_transport_eq_ok ht hgroups]
      cases huses with
      | @relay server => exact sendAll_relay_of_agrees hmessages (h.relay server)
      | @program path => exact sendAll_program_of_endingsFrom_eq hmessages (h.program path)
    · rw [deliver_of_transport_eq_error hnone hgroups, deliver_of_transport_eq_error hnone hgroups]
      exact ⟨rfl, Trace.sameButDates_nothing⟩

/-- Whoever leaves groups to a worker has no failure. Where the outside acts alike, the worker sends
what a delivery that is awaited sends, up to the dates of the mails, and with the same dates exactly
that. There is a notice that the delivery begins, and one more, with the words for the very failure
of the awaited delivery, if that one fails. Without groups both do nothing at all. Otherwise both go
the one way that the settings have for mails, or fail before anything is sent. -/
theorem worker_delivers_as_if_awaited (d : DeliverySettings) (outside : Outside)
    (dates dates' : Dates) (host : String) (groups : List Group) :
    (∃ outside', outside.AgreesOn d dates dates' host groups outside') ∧
    (dates = dates' → outside.AgreesOn d dates dates' host groups outside) ∧
    ∀ outside', outside.AgreesOn d dates dates' host groups outside' →
    let awaited := deliver d outside dates host groups
    let left := deliverDetached d outside' dates' host groups
    let said := left.2.notices.map fun notice => (notice.severity, notice.details)
    let begun := (Severity.info, [("groups", Detail.count groups.length), ("host", .text host)])
    left.2.result = .ok () ∧
    (awaited.2 = .ok () → said = [begun]) ∧
    (∀ failure, awaited.2 = .error failure →
      said = [begun, (.error, [("host", .text host), ("error", .text failure.message)])]) ∧
    awaited.1.SameButDates (dates.Paired dates') left.1 ∧
    (dates = dates' → awaited.1 = left.1) ∧
    (groups = [] → awaited = (.nothing, .ok ()) ∧ left.1 = .nothing) ∧
    (groups ≠ [] →
      (∃ t, d.Uses (some t) ∧ awaited = t.sendAll outside (d.messages dates host groups) ∧
        left.1 = (t.sendAll outside' (d.messages dates' host groups)).1) ∨
      (d.Uses none ∧ awaited = (.nothing, .error (.delivery .noTransport)) ∧
        left.1 = .nothing)) := by
  refine ⟨outside.exists_agreesOn d dates dates' host groups, ?_, ?_⟩
  · rintro rfl
    exact outside.agreesOn_refl d dates host groups
  intro outside' h awaited left said begun
  obtain ⟨hresult, htrace⟩ := deliver_of_agreesOn h
  have hleft : left.1 = (deliver d outside' dates' host groups).1 := rfl
  refine ⟨rfl, ?_, ?_, htrace, ?_, ?_, ?_⟩
  · intro hok
    exact congrArg (List.map _) (notices_deliverDetached_of_ok (hresult.symm.trans hok))
  · intro failure hfailure
    exact congrArg (List.map _) (notices_deliverDetached_of_error (hresult.symm.trans hfailure))
  · rintro rfl
    exact htrace.eq fun _ _ => Dates.eq_of_paired
  · rintro rfl
    exact ⟨rfl, rfl⟩
  · intro hgroups
    rcases d.uses_cases with ⟨t, huses, ht⟩ | ⟨huses, hnone⟩
    · refine .inl ⟨t, huses, deliver_of_transport_eq_ok ht hgroups outside dates host, ?_⟩
      rw [hleft, deliver_of_transport_eq_ok ht hgroups]
    · refine .inr ⟨huses, deliver_of_transport_eq_error hnone hgroups outside dates host, ?_⟩
      rw [hleft, deliver_of_transport_eq_error hnone hgroups]

/-- A relay that takes in so many bytes and accepts two requests before the first mail, this mail and
no more, to which there is no other way. -/
def breakingRelay (bytes : Nat) : Outside where
  relay _ _ _ := .established
    ⟨bytesOf "220 a\n250 b\n250 c\n250 d\n354 e\n250 f\n".toList, none⟩
    (some ⟨bytes, "Broken pipe (os error 32)"⟩)
  program _ _ _ := .notStarted "no program"

/-- The connection breaks in the fourth byte of the requests for the second mail. The day of the
month has one digit in the dates of one delivery and two in those of the other. -/
theorem worker_delivers_as_if_awaited_of_break :
    let dates : Dates := fun _ => ⟨⟨2024, 3, 1, by decide⟩, ⟨12, 30, 0, 0, by decide⟩, 60⟩
    let dates' : Dates := fun _ => ⟨⟨2024, 3, 10, by decide⟩, ⟨0, 0, 7, 0, by decide⟩, 60⟩
    let d : DeliverySettings := { DeliverySettings.default with smtpServer := some "relay" }
    let groups : List Group := [⟨["ops@site"], ".\r\n."⟩, ⟨["qa@site"], ""⟩]
    let awaited := deliver d (breakingRelay 199) dates "web01" groups
    let left := deliverDetached d (breakingRelay 200) dates' "web01" groups
    (breakingRelay 199).AgreesOn d dates dates' "web01" groups (breakingRelay 200) ∧
    left.2.notices.map (fun notice => (notice.severity, notice.details)) =
      [(.info, [("groups", .count 2), ("host", .text "web01")]),
        (.error, [("host", .text "web01"),
          ("error", .text "IO error: Broken pipe (os error 32)")])] ∧
    awaited.1.SameButDates (dates.Paired dates') left.1 ∧ awaited.1 ≠ left.1 := by
  intro dates dates' d groups awaited left
  have hrooms : RoomsAgree (dates.Paired dates')
      (script d.smtpHelo (d.messages dates "web01" groups))
      (script d.smtpHelo (d.messages dates' "web01" groups))
      (some ⟨199, "Broken pipe (os error 32)"⟩) (some ⟨200, "Broken pipe (os error 32)"⟩) := by
    iterate 6 refine .later (by decide +kernel) (by decide +kernel) ?_
    exact .cut (by decide +kernel) (by decide +kernel) (.of_eq (by decide +kernel))
      (by decide +kernel)
  have hends : endingsFrom (fun _ _ => .notStarted "no program") 0
        (d.messages dates "web01" groups) =
      endingsFrom (fun _ _ => .notStarted "no program") 0 (d.messages dates' "web01" groups) := by
    decide +kernel
  have hagrees : (breakingRelay 199).AgreesOn d dates dates' "web01" groups (breakingRelay 200) :=
    ⟨fun _ => .established _ hrooms, fun _ => hends⟩
  obtain ⟨-, -, hfailure, htrace, -⟩ :=
    (worker_delivers_as_if_awaited d (breakingRelay 199) dates dates' "web01" groups).2.2 _ hagrees
  have hbroken : awaited.2 = .error (.stream (.refused "Broken pipe (os error 32)")) := by
    decide +kernel
  exact ⟨hagrees, hfailure _ hbroken, htrace, by decide +kernel⟩

end ReportRouting
