/-!
Sets of characters given by the ranges of their code points.
-/

namespace ReportRouting.Text

/-- Whether a character lies in one of the closed ranges. -/
def inRanges (ranges : List (Nat × Nat)) (c : Char) : Bool :=
  ranges.any fun range => range.1 ≤ c.toNat && c.toNat ≤ range.2

end ReportRouting.Text
