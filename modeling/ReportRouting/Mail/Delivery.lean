import ReportRouting.Mail.Program
import ReportRouting.Mail.Session
import ReportRouting.Settings.Basic

/-!
Delivery of groups as mails.

Every group is one message. The messages go to a relay if one is set, else to a local program if
one is set; nothing is needed where there is no group. Delivery can be left to a worker, and then
its failure is only noted.
-/

namespace ReportRouting

inductive Transport where
  | relay (server : String) (port : UInt16) (helo : String) (timeout : UInt64)
  | program (path : String)
  deriving DecidableEq, Repr

/-- An empty path counts as no program. -/
def DeliverySettings.transport (d : DeliverySettings) : Except DeliveryFault Transport :=
  match d.smtpServer, d.program with
  | some server, _ => .ok (.relay server d.smtpPort d.smtpHelo d.timeout)
  | none, some path => if path.isEmpty then .error .noTransport else .ok (.program path)
  | none, none => .error .noTransport

section

variable {d : DeliverySettings} {server path : String}

theorem DeliverySettings.transport_of_server (h : d.smtpServer = some server) :
    d.transport = .ok (.relay server d.smtpPort d.smtpHelo d.timeout) := by
  rw [transport, h]

theorem DeliverySettings.transport_of_program (hserver : d.smtpServer = none)
    (hprogram : d.program = some path) (hpath : path ≠ "") :
    d.transport = .ok (.program path) := by
  rw [transport, hserver, hprogram]
  exact if_neg (by simpa using hpath)

theorem DeliverySettings.transport_of_neither (hserver : d.smtpServer = none)
    (hprogram : ∀ path ∈ d.program, path = "") : d.transport = .error .noTransport := by
  rw [transport, hserver]
  cases h : d.program with
  | none => rfl
  | some path => exact if_pos (by simpa using hprogram path h)

theorem DeliverySettings.transport_eq_error_iff {fault : DeliveryFault} :
    d.transport = .error fault ↔
      fault = .noTransport ∧ d.smtpServer = none ∧ ∀ path ∈ d.program, path = "" := by
  constructor
  · intro h
    cases hserver : d.smtpServer with
    | some server => exact nomatch h.symm.trans (transport_of_server hserver)
    | none =>
        have hnone : ∀ path ∈ d.program, path = "" := by
          intro path hprogram
          refine Decidable.byContradiction fun hpath => ?_
          exact nomatch h.symm.trans (transport_of_program hserver hprogram hpath)
        exact ⟨Except.error.inj (h.symm.trans (transport_of_neither hserver hnone)), rfl, hnone⟩
  · rintro ⟨rfl, hserver, hnone⟩
    exact transport_of_neither hserver hnone

end

/-- What the clock shows when each of the messages of a delivery is made, the first one at zero. -/
abbrev Dates : Type :=
  Nat → Stamp

def DeliverySettings.messages (d : DeliverySettings) (dates : Dates) (host : String)
    (groups : List Group) : List Message :=
  groups.mapIdx fun i g => ⟨d.sender, g.recipients, d.subjectFor host, dates i, g.body⟩

namespace DeliverySettings

variable (d : DeliverySettings) (dates : Dates) (host : String)

theorem messages_cons (g : Group) (groups : List Group) :
    d.messages dates host (g :: groups) =
      ⟨d.sender, g.recipients, d.subjectFor host, dates 0, g.body⟩ ::
        d.messages (fun i => dates (i + 1)) host groups :=
  List.mapIdx_cons

theorem length_messages (groups : List Group) :
    (d.messages dates host groups).length = groups.length :=
  List.length_mapIdx

end DeliverySettings

/-! ### The outside -/

/-- What comes of calling a relay. -/
inductive Connection where
  | unresolved (reason : String)
  | unreachable (reason : String)
  | noAddress
  /-- The connection is there, but cannot be made ready for a session. -/
  | unusable (reason : String)
  /-- All that the relay is going to say, and how much can be written to it. -/
  | established (replies : Incoming) (room : Option Limit)
  deriving DecidableEq, Repr

/-- How the relays and programs around behave. A relay is called with a timeout in seconds, which
also holds for each time that it is awaited or written to. -/
structure Outside where
  relay : String → UInt16 → UInt64 → Connection
  program : String → Behaviour

/-- What the outside has seen: the bytes that relays were sent, and the runs of programs. -/
structure Trace where
  sent : List UInt8
  runs : List Run
  deriving DecidableEq, Repr

def Trace.nothing : Trace :=
  ⟨[], []⟩

/-! ### Delivery -/

def Transport.sendAll (outside : Outside) (messages : List Message) :
    Transport → Trace × Except Failure Unit
  | .program path =>
    let (runs, result) := runAll path (outside.program path) messages
    (⟨[], runs⟩, result)
  | .relay server port helo timeout =>
    match outside.relay server port timeout with
    | .unresolved reason => (.nothing, .error (.delivery (.unresolved server port reason)))
    | .unreachable reason => (.nothing, .error (.delivery (.unreachable server port reason)))
    | .noAddress => (.nothing, .error (.delivery (.noAddress server port)))
    | .unusable reason => (.nothing, .error (.stream (.refused reason)))
    | .established replies room =>
      let (result, wire) := Session.converse helo messages ⟨replies, [], room⟩
      (⟨wire.written, []⟩, result)

/-- Delivers groups and awaits the end. -/
def deliver (d : DeliverySettings) (outside : Outside) (dates : Dates) (host : String)
    (groups : List Group) : Trace × Except Failure Unit :=
  if groups.isEmpty then (.nothing, .ok ())
  else
    match d.transport with
    | .error fault => (.nothing, .error (.delivery fault))
    | .ok transport => transport.sendAll outside (d.messages dates host groups)

theorem deliver_nil (d : DeliverySettings) (outside : Outside) (dates : Dates) (host : String) :
    deliver d outside dates host [] = (.nothing, .ok ()) := rfl

theorem deliver_of_transport_eq_ok {d : DeliverySettings} {t : Transport}
    (h : d.transport = .ok t) {groups : List Group} (hgroups : groups ≠ []) (outside : Outside)
    (dates : Dates) (host : String) :
    deliver d outside dates host groups = t.sendAll outside (d.messages dates host groups) := by
  rw [deliver, List.isEmpty_eq_false_iff.2 hgroups, h]
  rfl

theorem deliver_of_transport_eq_error {d : DeliverySettings} {fault : DeliveryFault}
    (h : d.transport = .error fault) {groups : List Group} (hgroups : groups ≠ [])
    (outside : Outside) (dates : Dates) (host : String) :
    deliver d outside dates host groups = (.nothing, .error (.delivery fault)) := by
  rw [deliver, List.isEmpty_eq_false_iff.2 hgroups, h]
  rfl

/-- Leaves delivery to a worker. The notices are those of the caller and then of the worker. -/
def deliverDetached (d : DeliverySettings) (outside : Outside) (dates : Dates) (host : String)
    (groups : List Group) : Trace × Logged Failure Unit :=
  let (trace, result) := deliver d outside dates host groups
  let failures := match result with
    | .ok () => []
    | .error failure => [Notice.notSent host failure.message]
  (trace, ⟨.sending host groups.length :: failures, .ok ()⟩)

section

variable {d : DeliverySettings} {outside : Outside} {dates : Dates} {host : String}
  {groups : List Group}

theorem notices_deliverDetached_of_ok (h : (deliver d outside dates host groups).2 = .ok ()) :
    (deliverDetached d outside dates host groups).2.notices = [.sending host groups.length] := by
  simp only [deliverDetached, h]

theorem notices_deliverDetached_of_error {failure : Failure}
    (h : (deliver d outside dates host groups).2 = .error failure) :
    (deliverDetached d outside dates host groups).2.notices =
      [.sending host groups.length, .notSent host failure.message] := by
  simp only [deliverDetached, h]

end

end ReportRouting
