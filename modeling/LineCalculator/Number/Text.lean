import LineCalculator.Number.Shortest

/-!
# Texts of numbers

The calculator writes a number in three ways: as a result, as a value in a log record, and inside
an expression in a log record. They share the digits and differ in the style.
-/
namespace LineCalculator

/-- The decisions of one way to write numbers. -/
structure NumberStyle where
  /-- The decimal for a positive rank. -/
  decimal : Nat → Decimal
  /-- Which leading exponents are written in place, without an exponent. -/
  inPlace : Int → Bool
  /-- What follows a whole number written in place. -/
  wholeMark : List Char
  /-- The exponent, written after the digits. -/
  exponentText : Int → List Char
  notANumber : List Char
  infinity : List Char

namespace NumberStyle

def positiveText (style : NumberStyle) (r : Nat) : List Char :=
  let d := style.decimal r
  if style.inPlace d.exponent then d.positional style.wholeMark
  else d.leading ++ style.exponentText d.exponent

def magnitudeText (style : NumberStyle) (r : Nat) : List Char :=
  if r = 0 then '0' :: style.wholeMark
  else if r = Binary64.infinityRank then style.infinity
  else style.positiveText r

/-- A number as text; a zero keeps its sign, and what is no number has none. -/
def text (style : NumberStyle) (v : Float) : List Char :=
  let r := Binary64.rank v
  if Binary64.infinityRank < r then style.notANumber
  else if Binary64.isNegative v then '-' :: style.magnitudeText r
  else style.magnitudeText r

/-- An exponent with its sign and at least two digits: `e+07`. -/
def signedExponent (x : Int) : List Char :=
  let ds := Nat.toDigits 10 x.natAbs
  'e' :: (if x < 0 then '-' else '+') :: (if ds.length < 2 then '0' :: ds else ds)

/-- An exponent with no more than it needs: `e7`, `e-7`. -/
def plainExponent (x : Int) : List Char :=
  let ds := Nat.toDigits 10 x.natAbs
  'e' :: if x < 0 then '-' :: ds else ds

/-- Results have six significant digits and are written in place from `0.0001` up to `999999`. -/
def result : NumberStyle where
  decimal r := Decimal.rounded 6 (Binary64.unitsOfRank r) Binary64.unitsOfOne
  inPlace x := -4 ≤ x && x < 6
  wholeMark := []
  exponentText := signedExponent
  notANumber := "nan".toList
  infinity := "inf".toList

/-- Values in log records have the digits that read back, always in place. -/
def logged : NumberStyle where
  decimal := Binary64.shortest
  inPlace _ := true
  wholeMark := []
  exponentText := plainExponent
  notANumber := "NaN".toList
  infinity := "inf".toList

/-- Numbers in logged expressions have the digits that read back, in place from `0.0001` up to
below `1e16`, and a whole number shows that it is no integer. -/
def inExpression : NumberStyle where
  decimal := Binary64.shortest
  inPlace x := -4 ≤ x && x < 16
  wholeMark := ['.', '0']
  exponentText := plainExponent
  notANumber := "NaN".toList
  infinity := "inf".toList

end NumberStyle

/-- A result as the user sees it. -/
def display (v : Float) : String := String.ofList (NumberStyle.result.text v)

end LineCalculator
