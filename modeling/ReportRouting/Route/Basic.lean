import ReportRouting.Notice
import ReportRouting.Record.Basic
import ReportRouting.Rule.Basic

/-!
Routing: which records every rule sends to its recipients.

A rule selects records by their tags. If there are any, their texts make the body of a group;
if there are none, a notice says so. All rules are evaluated before any notice is given, so a
record without a text spoils the pass as a whole.
-/

namespace ReportRouting

structure Group where
  recipients : List String
  body : String
  deriving DecidableEq, Repr

section

variable {ρ ε : Type} [Record ρ ε]

def Rule.accepts (r : Rule) (record : ρ) : Bool :=
  r.tags.accepts (Record.isTagged record)

def Rule.selected (r : Rule) (records : List ρ) : List ρ :=
  records.filter r.accepts

/-- The body for the recipients of a rule, unless it selects nothing. -/
def Rule.body? (r : Rule) (records : List ρ) : Except ε (Option String) :=
  let selected := r.selected records
  if selected.isEmpty then .ok none else return some (← renderAll selected)

/-- The bodies of all rules, in their order, up to the first fault. -/
def bodies (rules : List Rule) (records : List ρ) : Except ε (List (Option String)) :=
  rules.mapM fun r => r.body? records

end

/-! ### Groups and notices -/

def Rule.group? (r : Rule) (body : Option String) : Option Group :=
  body.map fun b => ⟨r.recipients, b⟩

def Rule.notice? (r : Rule) (body : Option String) : Option Notice :=
  match body with
  | some _ => none
  | none => some (.noMessages r.recipientList r.line)

/-- The groups of the rules that have bodies and the notices of the others. -/
def account (rules : List Rule) (answers : Except ε (List (Option String))) :
    Logged ε (List Group) :=
  match answers with
  | .error fault => ⟨[], .error fault⟩
  | .ok bodies =>
    ⟨(rules.zip bodies).filterMap fun p => p.1.notice? p.2,
      .ok ((rules.zip bodies).filterMap fun p => p.1.group? p.2)⟩

def routeInOrder {ρ ε : Type} [Record ρ ε] (rules : List Rule) (records : List ρ) :
    Logged ε (List Group) :=
  account rules (bodies rules records)

end ReportRouting
