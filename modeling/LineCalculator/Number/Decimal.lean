import LineCalculator.Number.Rounding

/-!
# Decimal numbers and their layouts

A decimal number is kept as its significant digits and the power of ten of the first of them. It
is laid out in place, `0.00125`, or with the point after the first digit, `1.25`, for use with an
exponent.
-/
namespace LineCalculator

/-- The number `d.ddd… * 10 ^ exponent`, the first digit before the point. -/
structure Decimal where
  digits : List Char
  exponent : Int
  deriving DecidableEq, Repr

namespace Decimal

def trimZeros (ds : List Char) : List Char := (ds.reverse.dropWhile (· == '0')).reverse

/-- The number `coefficient * 10 ^ place`, with no zero after its last significant digit. -/
def ofCoefficient (coefficient : Nat) (place : Int) : Decimal :=
  let ds := Nat.toDigits 10 coefficient
  ⟨trimZeros ds, place + (ds.length - 1 : Nat)⟩

/-- The quotient `num / den` rounded to `count` significant digits, a tie going to the even last
digit. Rounding up to a power of ten moves the exponent. -/
def rounded (count : Nat) (num den : Nat) : Decimal :=
  let place := leadingExponent num den - (count - 1 : Nat)
  ofCoefficient (roundScaled num den (-place)) place

/-- The digits in place. A whole number is followed by `wholeMark`. -/
def positional (wholeMark : List Char) (d : Decimal) : List Char :=
  if d.exponent < 0 then
    '0' :: '.' :: (List.replicate ((-d.exponent).toNat - 1) '0' ++ d.digits)
  else
    let whole := d.exponent.toNat + 1
    if d.digits.length ≤ whole then
      d.digits ++ List.replicate (whole - d.digits.length) '0' ++ wholeMark
    else d.digits.take whole ++ '.' :: d.digits.drop whole

/-- The digits with the point after the first one, if there are others. -/
def leading (d : Decimal) : List Char :=
  match d.digits with
  | first :: next :: rest => first :: '.' :: next :: rest
  | ds => ds

example : rounded 6 9999995 1 = ⟨['1'], 7⟩ := by decide +kernel
example : rounded 6 1 3 = ⟨['3', '3', '3', '3', '3', '3'], -1⟩ := by decide +kernel
example : positional [] ⟨['1', '2', '5'], -3⟩ = "0.00125".toList := by decide
example : positional [] ⟨['1', '2', '5'], 1⟩ = "12.5".toList := by decide
example : positional ".0".toList ⟨['1', '2', '5'], 4⟩ = "12500.0".toList := by decide

end Decimal

end LineCalculator
