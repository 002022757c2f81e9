/-!
# Classes of characters by ranges of code points

A class of characters that a standard lists is kept as the list of its ranges, in ascending order,
both ends included. `Text.Ranges.has` looks a character up.
-/

namespace AdvisoryTriage

namespace Text

/-- Ranges of code points, both ends included. -/
abbrev Ranges := List (Nat × Nat)

/-- Whether a character lies in one of the ranges. -/
def Ranges.has (ranges : Ranges) (c : Char) : Bool :=
  ranges.any fun (first, last) => first ≤ c.toNat && c.toNat ≤ last

end Text

end AdvisoryTriage
