import ReportRouting.Rule.Expr
import ReportRouting.Text.Quoted

/-!
Rules and what can be wrong with the line of a rule.

A rule names the recipients of one group of records; `line` is where its rule file states it.
-/

namespace ReportRouting

structure Rule where
  recipients : List String
  tags : TagExpr
  line : Nat
  deriving DecidableEq, Repr, Inhabited

/-- The recipients in one word, as notices name them. -/
def Rule.recipientList (r : Rule) : String :=
  ",".intercalate r.recipients

/-- A line that states the rule. -/
def Rule.display (r : Rule) : String :=
  ", ".intercalate r.recipients ++ ": " ++ r.tags.display

/-- Why a line states no rule. -/
inductive RuleFault where
  | noSeparator
  | noRecipients
  | noTags
  | invalidTag (text : String)
  | negatedWildcard
  | noPositiveTag
  deriving DecidableEq, Repr

def RuleFault.reason : RuleFault → String
  | noSeparator => "missing ':' between recipients and tags"
  | noRecipients => "no recipients"
  | noTags => "empty tag list"
  | invalidTag text => "invalid tag " ++ Text.quoted text
  | negatedWildcard => "the wildcard '" ++ wildcardTag ++ "' cannot be negated"
  | noPositiveTag => "no positive tags"

/-- A faulty line of a rule file, with its number, counted from one, and its text. -/
structure MalformedRule where
  line : Nat
  content : String
  fault : RuleFault
  deriving DecidableEq, Repr

def MalformedRule.message (e : MalformedRule) : String :=
  "Malformed rule on line " ++ toString e.line ++ " (" ++ Text.quoted e.content ++ "): "
    ++ e.fault.reason

end ReportRouting
