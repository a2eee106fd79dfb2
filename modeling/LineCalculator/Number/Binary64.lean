import LineCalculator.Number.Rounding

/-!
# Binary64 values by rank

The non-negative finite values are ranked 0, 1, 2, … in their order, zero first, and the pattern of
a value is its rank with the sign in front. A finite value is a whole number of units of
`2 ^ -1074`, so that its exact size is a natural number.
-/
namespace LineCalculator.Binary64

def binade : Nat := Nat.pow 2 52

/-- The place of the sign in a pattern. -/
def signBit : Nat := Nat.pow 2 63

/-- The rank of the infinities, one past the largest finite value. -/
def infinityRank : Nat := 2047 * binade

/-- The rank of a value without its sign. Patterns past `infinityRank` are not numbers. -/
def rank (v : Float) : Nat := v.toBits.toNat % signBit

def isNegative (v : Float) : Bool := signBit ≤ v.toBits.toNat

def isFinite (v : Float) : Bool := rank v < infinityRank

def isZero (v : Float) : Bool := rank v == 0

/-- The number of units of `2 ^ -1074` in the value of a rank. -/
def unitsOfRank (r : Nat) : Nat :=
  if r < binade then r else (binade + r % binade) * Nat.pow 2 (r / binade - 1)

def units (v : Float) : Nat := unitsOfRank (rank v)

def unitsOfOne : Nat := Nat.pow 2 1074

/-- The rank of the value nearest to `num / den`, a tie going to the even rank. Below the first
binade the step is one unit; each further binade doubles it. -/
def nearestRank (num den : Nat) : Nat :=
  let shift := (num * unitsOfOne / den).log2 - 52
  min infinityRank (shift * binade + roundHalfEven (num * unitsOfOne) (den * Nat.pow 2 shift))

def ofRank (negative : Bool) (r : Nat) : Float :=
  Float.ofBits (UInt64.ofNat (if negative then signBit + r else r))

def notANumber : Float := ofRank false (infinityRank + Nat.pow 2 51)

example : rank (ofRank true 5) = 5 := by decide
example : unitsOfRank (nearestRank 3 1) = 3 * unitsOfOne := by decide +kernel
example : nearestRank 1 (2 ^ 1075) = 0 := by decide +kernel
example : nearestRank (2 ^ 1024 - 2 ^ 970 - 1) 1 = infinityRank - 1 := by decide +kernel
example : nearestRank (2 ^ 1024 - 2 ^ 970) 1 = infinityRank := by decide +kernel

end LineCalculator.Binary64
