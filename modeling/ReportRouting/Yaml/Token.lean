/-!
The words of YAML.

Besides the words that are written there are words that stand for indentation: a block collection
is opened where its first word is indented further than what is around it, and closed where a word
is indented less.
-/

namespace ReportRouting.Yaml

/-- How a scalar is written, as far as its value depends on it. -/
inductive Style where
  | plain
  | literal
  | other
  deriving DecidableEq, Repr

inductive Token where
  | version (major minor : Nat)
  /-- The URI that a handle stands for in tags. -/
  | handle (handle uri : String)
  | documentStart
  | documentEnd
  | blockSequence
  | blockMapping
  | blockEnd
  | openSequence
  | closeSequence
  | openMapping
  | closeMapping
  | entry
  | comma
  | key
  | value
  | alias (name : String)
  | anchor (name : String)
  | tag (handle suffix : String)
  | scalar (style : Style) (text : String)
  | streamEnd
  deriving DecidableEq, Repr

end ReportRouting.Yaml
