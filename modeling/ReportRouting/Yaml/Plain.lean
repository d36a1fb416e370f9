import ReportRouting.Yaml.Gap

/-!
Plain scalars: words without quotes, possibly over several lines.

A plain scalar ends before a colon that ends a word, before a comment, before a line that is less
indented, and before a document mark; in a flow collection also before a comma or a bracket.
-/

namespace ReportRouting.Yaml

def isFlowMark (c : Char) : Bool :=
  c == ',' || c == '[' || c == ']' || c == '\x7b' || c == '\x7d'

def endsAfterGap (flow : Bool) (indent : Nat) (c : Cursor) : Bool :=
  (!flow && c.column < indent) || (c.column == 0 && atDocumentMark c.rest)
    || c.rest.head? == some '#'

def endsPlain (flow : Bool) (x : Char) (rest : List Char) : Bool :=
  (x == ':' && atWordEnd rest) || (flow && isFlowMark x)

/-- Takes the rest of a plain scalar in lines indented by `indent` columns at least. The text
before is given latest first; the result says whether a line break follows the scalar. -/
def takePlain? (flow : Bool) (indent : Nat) (text : List Char) (gap : Gap) (c : Cursor) :
    Option (List Char × Bool × Cursor) :=
  match _h : c.rest with
  | [] => some (text.reverse, gap.broken, c)
  | x :: rest =>
    if isSeparator x then
      if x == '\t' && gap.broken && c.column < indent then none
      else takePlain? flow indent text (gap.add x) (c.skipSeparator x)
    else if !gap.isEmpty && endsAfterGap flow indent c then some (text.reverse, gap.broken, c)
    else if flow && x == ':' && rest.head?.any (fun y => y == '?' || isFlowMark y) then none
    else if endsPlain flow x rest then some (text.reverse, gap.broken, c)
    else takePlain? flow indent (x :: (gap.fold ++ text)) .empty (c.skip 1)
termination_by c.rest.length
decreasing_by
  · exact Cursor.length_skipSeparator_lt _h
  · simp only [Cursor.length_skip, _h, List.length_cons]
    omega

end ReportRouting.Yaml
