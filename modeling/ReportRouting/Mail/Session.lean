import ReportRouting.Mail.Message
import ReportRouting.Mail.Reply
import ReportRouting.Text.Lines

/-!
Sessions with a relay.

In a session every request is written and its reply awaited before the next one. A session stops
at the first request that cannot be written or is not accepted; the wire keeps what was written
up to then, and the bytes of the relay that have not been read.
-/

namespace ReportRouting

open Text

/-- How many more bytes can be written, and why no more than these. -/
structure Limit where
  bytes : Nat
  reason : String
  deriving DecidableEq, Repr

def Limit.less (limit : Limit) (n : Nat) : Limit :=
  { limit with bytes := limit.bytes - n }

/-- Both directions of a connection. There may be a limit to what can be written. -/
structure Wire where
  unread : Incoming
  written : List UInt8
  room : Option Limit
  deriving DecidableEq, Repr

abbrev Session (α : Type) : Type :=
  ExceptT Failure (StateM Wire) α

namespace Session

/-- Writes bytes as far as there is room. They go out at once, so nothing is left to be flushed. -/
def write (bytes : List UInt8) : Session Unit := fun wire =>
  match wire.room with
  | none => (.ok (), { wire with written := wire.written ++ bytes })
  | some limit =>
    let room := some (limit.less bytes.length)
    if bytes.length ≤ limit.bytes then
      (.ok (), { wire with written := wire.written ++ bytes, room })
    else
      (.error (.stream (.refused limit.reason)),
        { wire with written := wire.written ++ bytes.take limit.bytes, room })

def await (accepted : List Nat) : Session Unit := fun wire =>
  let (reply, unread) := Reply.take wire.unread
  (reply.check accepted, { wire with unread })

def lineEnd : List Char := ['\r', '\n']

def command (line : String) (accepted : List Nat) : Session Unit := do
  write (bytesOf (line.toList ++ lineEnd))
  await accepted

/-! ### Content

A line of the content that begins with a point gets another one in front, for a point alone ends
the content. -/

def stuffed (line : List Char) : List Char :=
  if line.head? = some '.' then '.' :: line else line

def content (m : Message) : List Char :=
  (lines m.text).flatMap (fun line => stuffed line ++ lineEnd) ++ '.' :: lineEnd

/-! ### Requests -/

/-- Awaits the banner and names the client. -/
def greet (helo : String) : Session Unit := do
  await [220]
  command ("HELO " ++ helo) [250]

def addRecipients : List String → Session Unit
  | [] => pure ()
  | recipient :: rest => do
    command ("RCPT TO:<" ++ recipient ++ ">") [250, 251]
    addRecipients rest

def send (m : Message) : Session Unit := do
  command ("MAIL FROM:<" ++ m.sender ++ ">") [250]
  addRecipients m.recipients
  command "DATA" [354]
  write (bytesOf (content m))
  await [250]

def quit : Session Unit :=
  command "QUIT" [221]

def sendAll : List Message → Session Unit
  | [] => pure ()
  | m :: rest => do
    send m
    sendAll rest

def converse (helo : String) (messages : List Message) : Session Unit := do
  greet helo
  sendAll messages
  quit

end Session

end ReportRouting
