/-!
Tag expressions: which records a rule asks for.

An expression lists wanted tags and unwanted tags. A record is a candidate if it carries a wanted
tag, or if the wildcard is among the wanted tags; a candidate with an unwanted tag is left out.
-/

namespace ReportRouting

/-- The wanted tag that every record answers to. -/
def wildcardTag : String := "all"

structure TagExpr where
  positive : List String
  negative : List String
  deriving DecidableEq, Repr, Inhabited

namespace TagExpr

def isWildcard (e : TagExpr) : Bool :=
  e.positive.contains wildcardTag

/-- Wanted tags first, then the unwanted ones, each behind its mark. -/
def display (e : TagExpr) : String :=
  ", ".intercalate (e.positive ++ e.negative.map ("!" ++ ·))

/-! ### Selection

A record enters only through the tags it carries, given as a test on names. -/

def isCandidate (e : TagExpr) (tagged : String → Bool) : Bool :=
  e.isWildcard || e.positive.any tagged

def isExcluded (e : TagExpr) (tagged : String → Bool) : Bool :=
  e.negative.any tagged

/-- Exclusion wins over inclusion. -/
def accepts (e : TagExpr) (tagged : String → Bool) : Bool :=
  e.isCandidate tagged && !e.isExcluded tagged

theorem accepts_iff {e : TagExpr} {tagged : String → Bool} :
    e.accepts tagged = true ↔
      (wildcardTag ∈ e.positive ∨ ∃ t ∈ e.positive, tagged t = true) ∧
        ∀ t ∈ e.negative, tagged t = false := by
  simp [accepts, isCandidate, isExcluded, isWildcard]

end TagExpr

end ReportRouting
