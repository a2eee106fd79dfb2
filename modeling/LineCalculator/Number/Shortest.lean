import LineCalculator.Number.Binary64
import LineCalculator.Number.Decimal

/-!
# The shortest decimal that reads back

Among the decimals that round to a given value, the ones with the fewest digits are taken, and of
those the one nearest to the value. On each decimal grid only the two neighbours of the value can
be that decimal.
-/
namespace LineCalculator.Binary64

/-- Whether `coefficient * 10 ^ place` rounds to the value of rank `r`, for `r` positive. The
value takes the reals up to half way to its neighbours, and half way itself if its rank is even. -/
def roundsTo (r : Nat) (coefficient : Nat) (place : Int) : Bool :=
  let candidate := 2 * coefficient * Nat.pow 10 place.toNat * unitsOfOne
  let scale := Nat.pow 10 (-place).toNat
  let low := (unitsOfRank (r - 1) + unitsOfRank r) * scale
  let high := (unitsOfRank r + unitsOfRank (r + 1)) * scale
  if r % 2 = 0 then low ≤ candidate && candidate ≤ high else low < candidate && candidate < high

/-- The neighbour of the value of rank `r` on the grid of `10 ^ place` that rounds to it: the
nearer one if both do, the upper one if they are equally near. -/
def neighbour? (r : Nat) (place : Int) : Option Nat :=
  let num := unitsOfRank r * Nat.pow 10 (-place).toNat
  let den := unitsOfOne * Nat.pow 10 place.toNat
  let below := num / den
  match roundsTo r below place, roundsTo r (below + 1) place with
  | true, true => some (if 2 * (num % den) < den then below else below + 1)
  | true, false => some below
  | false, true => some (below + 1)
  | false, false => none

/-- The shortest decimal for the value of a positive rank; seventeen digits always suffice. -/
def shortest (r : Nat) : Decimal :=
  let top := leadingExponent (unitsOfRank r) unitsOfOne
  let found := (List.range 17).findSome? fun (k : Nat) =>
    (neighbour? r (top - k)).map (Decimal.ofCoefficient · (top - k))
  found.getD (Decimal.rounded 17 (unitsOfRank r) unitsOfOne)

example : shortest 1 = ⟨['5'], -324⟩ := by decide +kernel
example : shortest (nearestRank 1 10) = ⟨['1'], -1⟩ := by decide +kernel

end LineCalculator.Binary64
