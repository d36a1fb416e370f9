/-!
Notices: what is logged on the way, apart from results.
-/

namespace ReportRouting

inductive Severity where
  | info
  | warn
  | error
  deriving DecidableEq, Repr

/-- A value that a notice names. -/
inductive Detail where
  | text (s : String)
  | count (n : Nat)
  deriving DecidableEq, Repr

inductive Notice where
  /-- A rule, on a line of the rule file, matched nothing. -/
  | noMessages (recipients : String) (line : Nat)
  | noRuleFile (path : String)
  | noChanges (host : String)
  /-- Delivery of some groups begins. -/
  | sending (host : String) (groups : Nat)
  | notSent (host : String) (reason : String)
  deriving DecidableEq, Repr

namespace Notice

def severity : Notice → Severity
  | noRuleFile _ => .warn
  | notSent _ _ => .error
  | _ => .info

def message : Notice → String
  | noMessages recipients _ => "No messages to report to " ++ recipients
  | noRuleFile path => "Cannot send tagmail report; no tagmap file " ++ path
  | noChanges _ => "Not sending tagmail report; no changes"
  | sending _ _ => "sending tagmail reports"
  | notSent _ _ => "Could not send report emails"

def details : Notice → List (String × Detail)
  | noMessages recipients line => [("recipients", .text recipients), ("line", .count line)]
  | noRuleFile path => [("tagmap", .text path)]
  | noChanges host => [("host", .text host)]
  | sending host groups => [("groups", .count groups), ("host", .text host)]
  | notSent host reason => [("host", .text host), ("error", .text reason)]

end Notice

/-- What came of an activity, with the notices it gave. -/
structure Logged (ε α : Type) where
  notices : List Notice
  result : Except ε α

end ReportRouting
