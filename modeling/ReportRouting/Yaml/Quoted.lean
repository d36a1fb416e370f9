import ReportRouting.Text.Digits
import ReportRouting.Yaml.Gap

/-!
Scalars between quotes.

Between single quotes only a quote is special: it is written twice. Between double quotes a
backslash begins an escape; an escaped line break counts for nothing.
-/

namespace ReportRouting.Yaml

def escaped? (c : Char) : Option Char :=
  [('0', '\x00'), ('a', '\x07'), ('b', '\x08'), ('t', '\t'), ('\t', '\t'), ('n', '\n'),
    ('v', '\x0b'), ('f', '\x0c'), ('r', '\r'), ('e', '\x1b'), (' ', ' '), ('"', '"'), ('/', '/'),
    ('\\', '\\'), ('N', '\u0085'), ('_', '\u00a0'), ('L', '\u2028'), ('P', '\u2029')].lookup c

def escapeWidth? (c : Char) : Option Nat :=
  [('x', 2), ('u', 4), ('U', 8)].lookup c

def numbered? (width : Nat) (s : List Char) : Option Char := do
  let ds := s.take width
  guard (ds.length = width)
  let ds ← ds.mapM Text.hexValue?
  let n := ds.foldl (fun n d => 16 * n + d) 0
  if h : n.isValidChar then some (Char.ofNatAux n h) else none

def takeEscape? : List Char → Option (Char × Nat)
  | [] => none
  | c :: rest =>
    match escapeWidth? c with
    | some width => (numbered? width rest).map fun x => (x, width + 1)
    | none => (escaped? c).map fun x => (x, 1)

/-- Takes the rest of a scalar up to its closing quote. The text before is given latest first. -/
def takeQuoted? (quote : Char) (text : List Char) (gap : Gap) (c : Cursor) :
    Option (List Char × Cursor) :=
  match _h : c.rest with
  | [] => none
  | x :: rest =>
    if c.column == 0 && atDocumentMark c.rest then none
    else if isSeparator x then takeQuoted? quote text (gap.add x) (c.skipSeparator x)
    else if x == quote then
      if quote == '\'' && rest.head? == some '\'' then
        takeQuoted? quote ('\'' :: (gap.fold ++ text)) .empty (c.skip 2)
      else some ((gap.fold ++ text).reverse, c.skip 1)
    else if quote == '"' && x == '\\' then
      if rest.head?.any isBreak then
        takeQuoted? quote (gap.fold ++ text) .escaped (c.skip 1).skipBreak
      else
        match takeEscape? rest with
        | none => none
        | some (e, n) => takeQuoted? quote (e :: (gap.fold ++ text)) .empty (c.skip (n + 1))
    else takeQuoted? quote (x :: (gap.fold ++ text)) .empty (c.skip 1)
termination_by c.rest.length
decreasing_by
  · exact Cursor.length_skipSeparator_lt _h
  · simp only [Cursor.length_skip, _h, List.length_cons]
    omega
  · have := Cursor.length_skipBreak_le (c.skip 1)
    simp only [Cursor.length_skip, _h, List.length_cons] at *
    omega
  · simp only [Cursor.length_skip, _h, List.length_cons]
    omega
  · simp only [Cursor.length_skip, _h, List.length_cons]
    omega

end ReportRouting.Yaml
