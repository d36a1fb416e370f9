import Mathlib.Data.List.TakeDrop
import ReportRouting.Mail.Session

/-!
Sessions follow a script.

The requests of a session are known before it begins: `script` lists them with the codes that let
the session go on. Whatever the relay answers and wherever the wire breaks, the bytes written are
a front part of the script, which ends at the latest with the first request that is refused. Since
the requests of a message stand before its content, no content is written for a message that the
relay has not accepted.
-/

namespace ReportRouting

open Text

/-- What is written at once, and the codes that accept it. -/
structure Request where
  bytes : List UInt8
  accepted : List Nat

namespace Request

/-- Nothing, which asks for the banner. -/
def banner : Request :=
  ⟨[], [220]⟩

def command (line : String) (accepted : List Nat) : Request :=
  ⟨bytesOf (line.toList ++ Session.lineEnd), accepted⟩

end Request

def Message.requests (m : Message) : List Request :=
  Request.command ("MAIL FROM:<" ++ m.sender ++ ">") [250] ::
    m.recipients.map (fun recipient => Request.command ("RCPT TO:<" ++ recipient ++ ">") [250, 251]) ++
    [Request.command "DATA" [354], ⟨bytesOf (Session.content m), [250]⟩]

def script (helo : String) (messages : List Message) : List Request :=
  Request.banner :: Request.command ("HELO " ++ helo) [250] :: messages.flatMap Message.requests ++
    [Request.command "QUIT" [221]]

def scriptBytes (requests : List Request) : List UInt8 :=
  requests.flatMap Request.bytes

@[simp] theorem scriptBytes_nil : scriptBytes [] = [] := rfl

@[simp] theorem scriptBytes_cons (request : Request) (requests : List Request) :
    scriptBytes (request :: requests) = request.bytes ++ scriptBytes requests :=
  List.flatMap_cons

@[simp] theorem scriptBytes_append (before after : List Request) :
    scriptBytes (before ++ after) = scriptBytes before ++ scriptBytes after :=
  List.flatMap_append

/-! ### Replies -/

/-- The reply at a place in the bytes from a relay. -/
def nthReply (unread : Incoming) : Nat → Reply
  | 0 => (Reply.take unread).1
  | i + 1 => nthReply (Reply.take unread).2 i

/-- There is a request at the place, and the reply to it has one of its codes. -/
def IsAccepted (requests : List Request) (unread : Incoming) (i : Nat) : Prop :=
  ∃ request ∈ requests[i]?, ∃ code ∈ request.accepted, ∃ text,
    nthReply unread i = .answer code text

/-- The place of the first request that is refused, or the end if there is none. -/
def IsFirstRefusal (requests : List Request) (unread : Incoming) (k : Nat) : Prop :=
  (∀ i < k, IsAccepted requests unread i) ∧ ¬IsAccepted requests unread k

theorem check_eq_ok_iff {accepted : List Nat} {reply : Reply} :
    reply.check accepted = .ok () ↔ ∃ code ∈ accepted, ∃ text, reply = .answer code text := by
  cases reply with
  | answer code text =>
      rw [Reply.check]
      split
      case isTrue h => exact ⟨fun _ => ⟨code, h, text, rfl⟩, fun _ => rfl⟩
      case isFalse h =>
        constructor
        · intro hcheck
          cases hcheck
        · rintro ⟨_, hcode, _, hreply⟩
          cases hreply
          exact absurd hcode h
  | _ =>
      constructor
      · intro hcheck
        cases hcheck
      · rintro ⟨_, _, _, hreply⟩
        cases hreply

instance {requests : List Request} {unread : Incoming} {i : Nat} :
    Decidable (IsAccepted requests unread i) :=
  decidable_of_iff
    (∃ request ∈ requests[i]?, (nthReply unread i).check request.accepted = .ok ())
    (by simp only [check_eq_ok_iff, IsAccepted])

section

variable {request : Request} {requests : List Request} {unread : Incoming}

theorem isAccepted_cons_zero :
    IsAccepted (request :: requests) unread 0 ↔
      (Reply.take unread).1.check request.accepted = .ok () := by
  rw [check_eq_ok_iff, IsAccepted, nthReply]
  simp

theorem isAccepted_cons_succ {i : Nat} :
    IsAccepted (request :: requests) unread (i + 1) ↔
      IsAccepted requests (Reply.take unread).2 i := by
  rw [IsAccepted, IsAccepted, nthReply, List.getElem?_cons_succ]

theorem isFirstRefusal_nil_iff {k : Nat} : IsFirstRefusal [] unread k ↔ k = 0 := by
  have hnone : ∀ i, ¬IsAccepted [] unread i := by
    rintro i ⟨_, hrequest, _⟩
    cases hrequest
  constructor
  · intro hk
    by_contra hne
    exact hnone 0 (hk.1 0 (Nat.pos_of_ne_zero hne))
  · rintro rfl
    exact ⟨fun _ hi => absurd hi (Nat.not_lt_zero _), hnone 0⟩

theorem isFirstRefusal_cons_zero_iff :
    IsFirstRefusal (request :: requests) unread 0 ↔
      (Reply.take unread).1.check request.accepted ≠ .ok () := by
  rw [IsFirstRefusal, isAccepted_cons_zero]
  exact and_iff_right fun _ hi => absurd hi (Nat.not_lt_zero _)

theorem isFirstRefusal_cons_succ_iff {k : Nat} :
    IsFirstRefusal (request :: requests) unread (k + 1) ↔
      (Reply.take unread).1.check request.accepted = .ok () ∧
        IsFirstRefusal requests (Reply.take unread).2 k := by
  rw [IsFirstRefusal, IsFirstRefusal, Nat.forall_lt_succ_left, isAccepted_cons_zero, and_assoc]
  simp only [isAccepted_cons_succ]

end

theorem exists_isFirstRefusal (requests : List Request) (unread : Incoming) :
    ∃ k, IsFirstRefusal requests unread k := by
  induction requests generalizing unread with
  | nil => exact ⟨0, isFirstRefusal_nil_iff.2 rfl⟩
  | cons request requests ih =>
      by_cases h : (Reply.take unread).1.check request.accepted = .ok ()
      · obtain ⟨k, hk⟩ := ih (Reply.take unread).2
        exact ⟨k + 1, isFirstRefusal_cons_succ_iff.2 ⟨h, hk⟩⟩
      · exact ⟨0, isFirstRefusal_cons_zero_iff.2 h⟩

theorem IsFirstRefusal.eq_length_iff {requests : List Request} {unread : Incoming} {k : Nat}
    (hk : IsFirstRefusal requests unread k) :
    k = requests.length ↔ ∀ i < requests.length, IsAccepted requests unread i := by
  obtain ⟨haccepted, hrefused⟩ := hk
  constructor
  · rintro rfl
    exact haccepted
  · intro hall
    apply Nat.le_antisymm
    · -- There is no request behind the last one that could be accepted.
      by_contra hlt
      obtain ⟨_, hrequest, _⟩ := haccepted requests.length (Nat.lt_of_not_le hlt)
      rw [List.getElem?_eq_none (Nat.le_refl _)] at hrequest
      cases hrequest
    · by_contra hlt
      exact hrefused (hall k (Nat.lt_of_not_le hlt))

/-! ### Performing a script -/

/-- How many of some bytes can be written. -/
def passing (room : Option Limit) (length : Nat) : Nat :=
  room.elim length fun limit => min limit.bytes length

/-- There is room for so many bytes. -/
def Fits (room : Option Limit) (length : Nat) : Prop :=
  ∀ limit ∈ room, length ≤ limit.bytes

instance (room : Option Limit) (length : Nat) : Decidable (Fits room length) :=
  inferInstanceAs (Decidable (∀ limit ∈ room, length ≤ limit.bytes))

section

variable {room : Option Limit} {a : Nat}

theorem Fits.of_le (h : Fits room a) {b : Nat} (hle : b ≤ a) : Fits room b :=
  fun limit hlimit => Nat.le_trans hle (h limit hlimit)

theorem passing_of_fits (h : Fits room a) : passing room a = a := by
  cases room with
  | none => rfl
  | some limit => exact Nat.min_eq_right (h limit rfl)

theorem passing_add (h : Fits room a) (b : Nat) :
    passing room (a + b) = a + passing (room.map (·.less a)) b := by
  cases room with
  | none => rfl
  | some limit =>
      have hlimit := h limit rfl
      show min limit.bytes (a + b) = a + min (limit.bytes - a) b
      omega

theorem exists_limit_of_not_fits (h : ¬Fits room a) :
    ∃ limit, room = some limit ∧ limit.bytes < a := by
  simp only [Fits, not_forall, Nat.not_le] at h
  obtain ⟨limit, hlimit, hlt⟩ := h
  exact ⟨limit, hlimit, hlt⟩

theorem fits_add_iff (h : Fits room a) {b : Nat} :
    Fits room (a + b) ↔ Fits (room.map (·.less a)) b := by
  cases room with
  | none => exact ⟨nofun, nofun⟩
  | some limit =>
      have hlimit := h limit rfl
      simp only [Fits, Option.map_some, Option.mem_some_iff, forall_eq', Limit.less]
      omega

end

namespace Session

def exchange (request : Request) : Session Unit := do
  write request.bytes
  await request.accepted

def perform : List Request → Session Unit
  | [] => pure ()
  | request :: requests => do
    exchange request
    perform requests

theorem command_eq_exchange (line : String) (accepted : List Nat) :
    command line accepted = exchange (Request.command line accepted) := rfl

theorem perform_singleton (request : Request) : perform [request] = exchange request := by
  rw [perform, perform, bind_pure_unit]

theorem perform_append (before after : List Request) :
    perform (before ++ after) = (do perform before; perform after) := by
  induction before with
  | nil => rw [List.nil_append, perform, pure_bind]
  | cons request before ih => rw [List.cons_append, perform, perform, ih, bind_assoc]

theorem write_nil : write [] = pure () := by
  funext wire
  obtain ⟨unread, written, room⟩ := wire
  cases room <;> simp [write] <;> rfl

theorem addRecipients_eq_perform (recipients : List String) :
    addRecipients recipients =
      perform (recipients.map fun recipient =>
        Request.command ("RCPT TO:<" ++ recipient ++ ">") [250, 251]) := by
  induction recipients with
  | nil => rfl
  | cons recipient recipients ih =>
      rw [addRecipients, ih, command_eq_exchange, List.map_cons, perform]

theorem send_eq_perform (m : Message) : send m = perform m.requests := by
  have hcontent : exchange ⟨bytesOf (content m), [250]⟩ =
      (do write (bytesOf (content m)); await [250]) := by rw [exchange]
  rw [Message.requests, perform_append, perform, perform, perform_singleton, hcontent, bind_assoc,
    ← addRecipients_eq_perform]
  simp only [← command_eq_exchange, send]

theorem sendAll_eq_perform (messages : List Message) :
    sendAll messages = perform (messages.flatMap Message.requests) := by
  induction messages with
  | nil => rfl
  | cons m messages ih =>
      rw [sendAll, List.flatMap_cons, perform_append, send_eq_perform, ih]

/-- A session performs its script. -/
theorem converse_eq_perform (helo : String) (messages : List Message) :
    converse helo messages = perform (script helo messages) := by
  have hgreet : greet helo =
      (do exchange Request.banner; exchange (Request.command ("HELO " ++ helo) [250])) := by
    have hbanner : exchange Request.banner = await [220] := by
      rw [exchange, Request.banner, write_nil, pure_bind]
    rw [hbanner, greet, command_eq_exchange]
  rw [converse, script, perform_append, perform, perform, perform_singleton, hgreet,
    sendAll_eq_perform, quit, command_eq_exchange]
  simp only [bind_assoc]

/-! ### Runs on a wire -/

theorem bind_of_ok {α β : Type} {x : Session α} {f : α → Session β} {a : α} {wire wire' : Wire}
    (h : x wire = (.ok a, wire')) : (x >>= f) wire = f a wire' := by
  show ExceptT.bindCont f (x wire).1 (x wire).2 = f a wire'
  rw [h]
  rfl

theorem bind_of_error {α β : Type} {x : Session α} {f : α → Session β} {e : Failure}
    {wire wire' : Wire} (h : x wire = (.error e, wire')) : (x >>= f) wire = (.error e, wire') := by
  show ExceptT.bindCont f (x wire).1 (x wire).2 = (.error e, wire')
  rw [h]
  rfl

variable {request : Request} {requests : List Request}

/-- A request that fits is written as a whole, and its reply decides. -/
theorem exchange_of_fits {wire : Wire} (h : Fits wire.room request.bytes.length) :
    exchange request wire =
      ((Reply.take wire.unread).1.check request.accepted,
        ⟨(Reply.take wire.unread).2, wire.written ++ request.bytes,
          wire.room.map (·.less request.bytes.length)⟩) := by
  obtain ⟨unread, written, room⟩ := wire
  have hwrite : write request.bytes ⟨unread, written, room⟩ =
      (.ok (), ⟨unread, written ++ request.bytes, room.map (·.less request.bytes.length)⟩) := by
    cases room with
    | none => rfl
    | some limit => exact if_pos (h limit rfl)
  rw [exchange, bind_of_ok hwrite]
  rfl

/-- A request that does not fit is written as far as it goes. -/
theorem exchange_of_short {unread : Incoming} {written : List UInt8} {limit : Limit}
    (h : limit.bytes < request.bytes.length) :
    exchange request ⟨unread, written, some limit⟩ =
      (.error (.stream (.refused limit.reason)), ⟨unread, written ++ request.bytes.take limit.bytes,
        some (limit.less request.bytes.length)⟩) := by
  rw [exchange]
  exact bind_of_error (if_neg (Nat.not_le_of_lt h))

/-- What a run writes, and when it succeeds. The induction is on the requests, for every wire. -/
theorem perform_of_isFirstRefusal (wire : Wire) {k : Nat}
    (hk : IsFirstRefusal requests wire.unread k) :
    (perform requests wire).2.written = wire.written ++
        (scriptBytes requests).take
          (passing wire.room (scriptBytes (requests.take (k + 1))).length) ∧
      ((perform requests wire).1 = .ok () ↔
        Fits wire.room (scriptBytes (requests.take (k + 1))).length ∧ k = requests.length) := by
  induction requests generalizing wire k with
  | nil =>
      rw [isFirstRefusal_nil_iff.1 hk]
      constructor
      · show wire.written = wire.written ++ [].take _
        rw [List.take_nil, List.append_nil]
      · exact ⟨fun _ => ⟨fun _ _ => Nat.zero_le _, rfl⟩, fun _ => rfl⟩
  | cons request requests ih =>
      rw [perform, List.take_succ_cons, scriptBytes_cons, scriptBytes_cons, List.length_append]
      by_cases hfits : Fits wire.room request.bytes.length
      case pos =>
        have hexchange := exchange_of_fits hfits
        cases k with
        | zero =>
            -- The reply to this request ends the run, whatever comes after it in the script.
            have hrefused := isFirstRefusal_cons_zero_iff.1 hk
            obtain ⟨e, he⟩ : ∃ e, (Reply.take wire.unread).1.check request.accepted = .error e := by
              cases hcheck : (Reply.take wire.unread).1.check request.accepted with
              | error e => exact ⟨e, rfl⟩
              | ok _ => exact absurd hcheck hrefused
            rw [he] at hexchange
            rw [bind_of_error hexchange, List.take_zero, scriptBytes_nil, List.length_nil,
              Nat.add_zero, passing_of_fits hfits, List.take_left]
            refine ⟨rfl, nofun, ?_⟩
            rintro ⟨_, hlength⟩
            cases hlength
        | succ k =>
            -- The rest of the script runs with the rest of the room and of the replies.
            obtain ⟨haccepted, hk⟩ := isFirstRefusal_cons_succ_iff.1 hk
            rw [haccepted] at hexchange
            obtain ⟨hwritten, hok⟩ := ih ⟨_, _, _⟩ hk
            rw [bind_of_ok hexchange, passing_add hfits, fits_add_iff hfits, hwritten, hok,
              List.take_length_add_append, List.append_assoc, List.length_cons, Nat.succ_inj]
            exact ⟨rfl, Iff.rfl⟩
      case neg =>
        -- The request is cut off, and the limit is what has been written.
        obtain ⟨unread, written, room⟩ := wire
        obtain ⟨limit, rfl, hlt⟩ := exists_limit_of_not_fits hfits
        have hexchange : exchange request ⟨unread, written, some limit⟩ = _ :=
          exchange_of_short hlt
        have hpassing : passing (some limit) (request.bytes.length +
            (scriptBytes (requests.take k)).length) = limit.bytes := by
          show min limit.bytes _ = limit.bytes
          omega
        rw [bind_of_error hexchange, hpassing,
          List.take_append_of_le_length (Nat.le_of_lt hlt)]
        refine ⟨rfl, nofun, ?_⟩
        rintro ⟨hfits, _⟩
        have hle := hfits limit rfl
        omega

end Session

/-! ### The prefix that is written -/

theorem length_scriptBytes_take_le (requests : List Request) {i j : Nat} (h : i ≤ j) :
    (scriptBytes (requests.take i)).length ≤ (scriptBytes (requests.take j)).length := by
  have hprefix : requests.take i <+: requests.take j := List.take_prefix_take_left h
  obtain ⟨rest, hrest⟩ := hprefix
  rw [← hrest, scriptBytes_append, List.length_append]
  exact Nat.le_add_right _ _

theorem passing_le (room : Option Limit) (length : Nat) : passing room length ≤ length := by
  cases room with
  | none => exact Nat.le_refl _
  | some limit => exact Nat.min_le_right limit.bytes length

/-- A session writes its script up to the first request that is refused, as far as there is room.
It succeeds if all of this fits and nothing is refused. Bytes of a request, such as the content of
a message, are written only after every request before it has been accepted. -/
theorem converse_follows_script (helo : String) (messages : List Message) (replies : Incoming)
    (room : Option Limit) :
    let requests := script helo messages
    let run := Session.converse helo messages ⟨replies, [], room⟩
    ∃ k, IsFirstRefusal requests replies k ∧
      let length := (scriptBytes (requests.take (k + 1))).length
      run.2.written = (scriptBytes requests).take (passing room length) ∧
      (run.1 = .ok () ↔
        Fits room length ∧ ∀ i < requests.length, IsAccepted requests replies i) ∧
      ∀ i, (scriptBytes (requests.take i)).length < run.2.written.length →
        ∀ j < i, IsAccepted requests replies j := by
  intro requests run
  obtain ⟨k, hk⟩ := exists_isFirstRefusal requests replies
  have hrun : run = Session.perform requests ⟨replies, [], room⟩ :=
    congrFun (Session.converse_eq_perform helo messages) _
  have hspec := Session.perform_of_isFirstRefusal ⟨replies, [], room⟩ hk
  rw [← hrun, List.nil_append, hk.eq_length_iff] at hspec
  obtain ⟨hwritten, hok⟩ := hspec
  refine ⟨k, hk, hwritten, hok, fun i hi j hj => ?_⟩
  -- All that is written belongs to the requests up to the first refusal.
  apply hk.1
  by_contra hkj
  have hle := length_scriptBytes_take_le requests (show k + 1 ≤ i by omega)
  have hpassing := passing_le room (scriptBytes (requests.take (k + 1))).length
  have hlength : run.2.written.length ≤ (scriptBytes (requests.take (k + 1))).length := by
    rw [hwritten]
    exact Nat.le_trans (List.length_take_le _ _) hpassing
  omega

-- The relay refuses the name of the client, and nothing more is written.
example :
    let replies : Incoming := ⟨bytesOf "220 hi\n500 no\n".toList, none⟩
    (Session.converse "site" [] ⟨replies, [], some ⟨20, "broken pipe"⟩⟩).2.written =
      bytesOf "HELO site\r\n".toList := by
  decide +kernel

end ReportRouting
