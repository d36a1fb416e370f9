import ReportRouting.Failure
import ReportRouting.Text.Blank
import ReportRouting.Text.Bytes
import ReportRouting.Text.Digits

/-!
The replies of a relay.

A reply is a line with a three-digit code, a separator and a text, or several such lines of which
all but the last have a hyphen for the separator. The code of the last line is the code of the
reply; the texts of all its lines, with a space between them, are its text.

Before a reply is complete, the relay may have closed the connection, or reading may fail.
-/

namespace ReportRouting

open Text

/-- What comes in from a relay: its bytes, and why no more of them can be read behind these, unless
the relay has closed the connection there. Waiting for longer than the timeout is such a fault. -/
structure Incoming where
  bytes : List UInt8
  fault : Option String
  deriving DecidableEq, Repr

namespace Incoming

/-- The bytes up to the first newline, which goes with them, and the rest. Bytes without a newline
are a line only where the connection has been closed. -/
def takeLine? (s : Incoming) : Option (List UInt8 × Incoming) :=
  match s.bytes.dropWhile (· != 10) with
  | newline :: rest =>
    some (s.bytes.takeWhile (· != 10) ++ [newline], { s with bytes := rest })
  | [] =>
    if s.bytes = [] ∨ s.fault.isSome then none else some (s.bytes, { s with bytes := [] })

theorem length_lt_of_takeLine? {s rest : Incoming} {line : List UInt8}
    (h : s.takeLine? = some (line, rest)) : rest.bytes.length < s.bytes.length := by
  have hle : (s.bytes.dropWhile (· != 10)).length ≤ s.bytes.length :=
    (List.dropWhile_sublist _).length_le
  unfold takeLine? at h
  split at h
  · next heq =>
      cases h
      rwa [heq] at hle
  · split at h
    case isTrue => cases h
    case isFalse hline =>
      cases h
      exact List.length_pos_iff.2 fun hbytes => hline (.inl hbytes)

end Incoming

inductive Reply where
  | none
  | broken (reason : String)
  | notText
  | malformed (line : String)
  | answer (code : Nat) (text : String)
  deriving DecidableEq, Repr

namespace Reply

/-- The number in the first three bytes of a line: digits, the first of which may be a plus. -/
def code? : List Char → Option Nat
  | a :: b :: c :: _ =>
    if (a.isDigit || a == '+') && b.isDigit && c.isDigit then
      some (ofDigits ((if a == '+' then [] else [a]) ++ [b, c]))
    else .none
  | _ => .none

/-- What follows the separator of a line; nothing does where it takes more than one byte. -/
def lineText (line : List Char) : List Char :=
  match line.drop 3 with
  | separator :: rest => if separator.toNat < 0x80 then rest else []
  | [] => []

def goesOn (line : List Char) : Bool :=
  (line.drop 3).head? == some '-'

def ofNoLine (s : Incoming) : Reply :=
  match s.fault with
  | .none => .none
  | some reason => .broken reason

/-- The reply, if it ends with a line, or else the texts of its lines so far, the latest first. -/
def ofLine (before : List (List Char)) (line : List UInt8) : Reply ⊕ List (List Char) :=
  match text? line with
  | .none => .inl .notText
  | some s =>
    let line := trimEnd s.toList
    match code? line with
    | .none => .inl (.malformed (String.ofList line))
    | some code =>
      let texts := lineText line :: before
      if goesOn line then .inr texts
      else .inl (.answer code (String.ofList ([' '].intercalate texts.reverse)))

def takeFrom (before : List (List Char)) (s : Incoming) : Reply × Incoming :=
  match _h : s.takeLine? with
  | .none => (ofNoLine s, { s with bytes := [] })
  | some (line, rest) =>
    match ofLine before line with
    | .inl reply => (reply, rest)
    | .inr texts => takeFrom texts rest
termination_by s.bytes.length
decreasing_by exact Incoming.length_lt_of_takeLine? _h

def take (s : Incoming) : Reply × Incoming :=
  takeFrom [] s

def check (accepted : List Nat) : Reply → Except Failure Unit
  | .none => .error (.delivery .closedByServer)
  | .broken reason => .error (.stream (.refused reason))
  | .notText => .error (.stream .notText)
  | .malformed line => .error (.delivery (.malformedReply line))
  | .answer code text =>
    if code ∈ accepted then .ok () else .error (.delivery (.unexpectedReply code text))

end Reply

end ReportRouting
