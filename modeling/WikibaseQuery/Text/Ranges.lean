/-!
# Sets of characters given by ranges
-/

namespace WikibaseQuery

/-- Whether the character lies in one of the ranges, both ends included. -/
def inRanges (ranges : List (Nat × Nat)) (c : Char) : Bool :=
  ranges.any fun r => r.1 ≤ c.toNat && c.toNat ≤ r.2

end WikibaseQuery
