/-!
# Rounding of exact quotients

Numbers are rounded in one place and exactly: a quotient of natural numbers goes to the nearest
whole number, and a tie goes to the even one. Powers are written `Nat.pow`, which means the same
whatever other powers are imported.
-/
namespace LineCalculator

/-- The whole number nearest to `num / den`, a tie going to the even neighbour. -/
def roundHalfEven (num den : Nat) : Nat :=
  let q := num / den
  let r := num % den
  if 2 * r < den then q
  else if den < 2 * r then q + 1
  else q + q % 2

/-- The number of decimal digits of a natural number; zero has one. -/
def digitCount (n : Nat) : Nat := (Nat.toDigits 10 n).length

theorem digitCount_pos (n : Nat) : 0 < digitCount n := Nat.length_toDigits_pos

/-- A number has at most `k` digits when it is below the `k`-th power of ten. -/
theorem digitCount_le_iff {n k : Nat} (hk : 0 < k) : digitCount n ≤ k ↔ n < Nat.pow 10 k :=
  Nat.length_toDigits_le_iff (by decide) hk

/-- The power of ten of the leading decimal digit of `num / den`, for positive arguments. -/
def leadingExponent (num den : Nat) : Int :=
  if den ≤ num then digitCount (num / den) - 1 else -digitCount ((den - 1) / num)

/-- The whole number nearest to `num / den * 10 ^ k`. -/
def roundScaled (num den : Nat) (k : Int) : Nat :=
  roundHalfEven (num * Nat.pow 10 k.toNat) (den * Nat.pow 10 (-k).toNat)

example : roundHalfEven 5 2 = 2 := by decide
example : roundHalfEven 7 2 = 4 := by decide
example : leadingExponent 999 1 = 2 := by decide
example : leadingExponent 1 1000 = -3 := by decide
example : leadingExponent 1 1001 = -4 := by decide

end LineCalculator
