import ReportRouting.Time.Format

/-!
Mail messages and their text.

The text of a message is four header lines, an empty line and the body, which ends in a newline.
A header keeps to its line: the line ends within its value count as spaces.
-/

namespace ReportRouting

structure Message where
  sender : String
  recipients : List String
  subject : String
  date : Stamp
  body : String
  deriving DecidableEq

def headerChar (c : Char) : Char :=
  if c = '\r' ∨ c = '\n' then ' ' else c

def headerValue (s : String) : List Char :=
  s.toList.map headerChar

def headerLine (name : String) (value : List Char) : List Char :=
  name.toList ++ ':' :: ' ' :: value ++ ['\n']

namespace Message

def headers (m : Message) : List Char :=
  headerLine "From" (headerValue m.sender)
    ++ headerLine "Subject" (headerValue m.subject)
    ++ headerLine "To" (headerValue (", ".intercalate m.recipients))
    ++ headerLine "Date" m.date.mailText.toList

/-- A text with a newline at its end, which is added if there is none. -/
def endLine (s : List Char) : List Char :=
  if s.getLast? = some '\n' then s else s ++ ['\n']

def text (m : Message) : List Char :=
  m.headers ++ '\n' :: endLine m.body.toList

end Message

end ReportRouting
