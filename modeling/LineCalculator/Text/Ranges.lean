/-!
# Tables of characters

A property of characters is given by the ranges of code points that have it.
-/
namespace LineCalculator.Text

/-- Whether a character lies in one of the ranges, which have both ends included and stand in
increasing order: the first one that reaches `c` decides. -/
def inRanges (ranges : List (Nat × Nat)) (c : Char) : Bool :=
  (ranges.find? fun (_, last) => c.toNat ≤ last).any fun (first, _) => first ≤ c.toNat

end LineCalculator.Text
