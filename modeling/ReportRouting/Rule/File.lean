import ReportRouting.Rule.Basic
import ReportRouting.Text.Blank
import ReportRouting.Text.Lines
import ReportRouting.Text.WordChar

/-!
Rule files.

A rule file has a rule on every line that is neither blank nor a comment:

    # recipients: tags
    admin@site.example, web@site.example: all, !quiet

Recipients stand before the first colon, apart by commas or blanks, and tags behind it, apart by
commas. A `#` at the start of a line or after a blank begins a comment. One faulty line spoils the
file: `readRules` answers with all rules or with the first fault.
-/

namespace ReportRouting

open Text

/-! ### Tags -/

/-- One entry of a tag list. -/
inductive TagToken where
  | tag (name : String)
  | negated (name : String)
  | wildcard
  deriving DecidableEq, Repr

def isTagChar (c : Char) : Bool :=
  isWordChar c || c == '-' || c == '.'

def isTagName (s : List Char) : Bool :=
  !s.isEmpty && s.all isTagChar

/-- Reads one trimmed entry: a name, perhaps behind one `!`. -/
def TagToken.read (piece : List Char) : Except RuleFault TagToken :=
  match piece with
  | '!' :: name =>
    if !isTagName name then .error (.invalidTag (String.ofList piece))
    else if String.ofList name = wildcardTag then .error .negatedWildcard
    else .ok (.negated (String.ofList name))
  | _ =>
    if !isTagName piece then .error (.invalidTag (String.ofList piece))
    else if String.ofList piece = wildcardTag then .ok .wildcard
    else .ok (.tag (String.ofList piece))

/-- The entries of a tag list, up to its leftmost faulty one. -/
def readTokens (tags : List Char) : Except RuleFault (List TagToken) :=
  if (trim tags).isEmpty then .error .noTags
  else ((trim tags).splitOn ',').mapM fun piece => TagToken.read (trim piece)

def TagToken.positive? : TagToken → Option String
  | tag name => some name
  | wildcard => some wildcardTag
  | negated _ => none

def TagToken.negative? : TagToken → Option String
  | negated name => some name
  | _ => none

/-- An expression keeps the first of equal entries, and needs a positive one. -/
def TagExpr.ofTokens (tokens : List TagToken) : Except RuleFault TagExpr :=
  let positive := (tokens.filterMap TagToken.positive?).eraseDups
  if positive.isEmpty then .error .noPositiveTag
  else .ok ⟨positive, (tokens.filterMap TagToken.negative?).eraseDups⟩

/-! ### Lines -/

/-- What is left before the first `#` that follows a blank character; `afterBlank` says whether
one stands before the text. -/
def cutComment (afterBlank : Bool) (s : List Char) : List Char :=
  ((s.zip (afterBlank :: s.map isBlank)).takeWhile fun p => !(p.1 == '#' && p.2)).map (·.1)

@[simp] theorem cutComment_nil (afterBlank : Bool) : cutComment afterBlank [] = [] := rfl

theorem cutComment_cons (afterBlank : Bool) (c : Char) (s : List Char) :
    cutComment afterBlank (c :: s) =
      if c = '#' ∧ afterBlank = true then [] else c :: cutComment (isBlank c) s := by
  by_cases hc : c = '#' <;> cases afterBlank <;> simp [cutComment, hc]

/-- The parts before and after the first colon. -/
def halves? (s : List Char) : Option (List Char × List Char) :=
  match s.dropWhile (· != ':') with
  | [] => none
  | _ :: tags => some (s.takeWhile (· != ':'), tags)

/-- The runs of characters between commas and blanks. -/
def readRecipients (s : List Char) : List String :=
  ((s.splitOnP fun c => c == ',' || isBlank c).filter (!·.isEmpty)).map String.ofList

/-- A line is blank or a comment (`none`), or it states recipients and tags. -/
def readRuleLine (line : List Char) : Except RuleFault (Option (List String × TagExpr)) :=
  let text := trim line
  if text.isEmpty || text.head? == some '#' then .ok none
  else
    match halves? (cutComment true text) with
    | none => .error .noSeparator
    | some (before, after) =>
      let recipients := readRecipients before
      if recipients.isEmpty then .error .noRecipients
      else do
        let tokens ← readTokens after
        let tags ← TagExpr.ofTokens tokens
        return some (recipients, tags)

/-! ### Files -/

/-- The rule on a line with a number, if there is one. -/
def readNumberedLine (line : List Char) (number : Nat) : Except MalformedRule (Option Rule) :=
  match readRuleLine line with
  | .error fault => .error ⟨number, String.ofList line, fault⟩
  | .ok none => .ok none
  | .ok (some (recipients, tags)) => .ok (some ⟨recipients, tags, number⟩)

def readRules (text : String) : Except MalformedRule (List Rule) := do
  let entries ← ((lines text.toList).zipIdx 1).mapM fun p => readNumberedLine p.1 p.2
  return entries.filterMap id

end ReportRouting
