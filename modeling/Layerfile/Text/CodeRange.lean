/-!
Sets of characters as inclusive ranges of code points.
-/

namespace Layerfile.Text

abbrev CodeRanges := List (Nat × Nat)

def CodeRanges.has (ranges : CodeRanges) (c : Char) : Bool :=
  ranges.any fun (low, high) => low ≤ c.toNat && c.toNat ≤ high

end Layerfile.Text
