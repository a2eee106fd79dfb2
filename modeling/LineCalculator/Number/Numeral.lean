import LineCalculator.Number.Binary64

/-!
# Numerals

The texts that stand for numbers: an optional sign, then digits with an optional point and an
optional exponent, or a word for an infinite or undefined number. Reading rounds the exact value
to the nearest binary64 value, however long the text is.
-/
namespace LineCalculator

inductive Numeral where
  | notANumber
  | infinite (negative : Bool)
  /-- The number `coefficient * 10 ^ place`. -/
  | decimal (negative : Bool) (coefficient : Nat) (place : Int)
  deriving DecidableEq, Repr

namespace Numeral

def digitsValue (ds : List Char) : Nat := Nat.ofDigitChars 10 ds 0

/-- An optional sign: whether it is a minus, and the rest. -/
def sign : List Char → Bool × List Char
  | '-' :: rest => (true, rest)
  | '+' :: rest => (false, rest)
  | rest => (false, rest)

/-- The exponent after the digits: nothing, or a mark, an optional sign and digits. -/
def exponent? : List Char → Option Int
  | [] => some 0
  | mark :: rest =>
    let (negative, ds) := sign rest
    if (mark == 'e' || mark == 'E') && !ds.isEmpty && ds.all Char.isDigit then
      some (if negative then -(digitsValue ds : Int) else digitsValue ds)
    else none

/-- An optional point and the digits after it, and the rest. -/
def fraction : List Char → List Char × List Char
  | '.' :: rest => (rest.takeWhile Char.isDigit, rest.dropWhile Char.isDigit)
  | rest => ([], rest)

/-- Digits with an optional point among them or at either end, then an exponent. -/
def decimal? (negative : Bool) (cs : List Char) : Option Numeral :=
  let whole := cs.takeWhile Char.isDigit
  let (frac, rest) := fraction (cs.dropWhile Char.isDigit)
  if whole.isEmpty && frac.isEmpty then none
  else (exponent? rest).map fun e =>
    decimal negative (digitsValue (whole ++ frac)) (e - frac.length)

/-- The numeral that a text is, if it is one. Words are read in any case. -/
def read? (text : String) : Option Numeral :=
  let (negative, cs) := sign text.toList
  let word := String.ofList (cs.map Char.toLower)
  if word = "nan" then some notANumber
  else if word = "inf" || word = "infinity" then some (infinite negative)
  else decimal? negative cs

/-- The rank of `coefficient * 10 ^ place`, rounded. The leading digit alone decides for numbers
far outside the range of values, so that no power is computed for them. -/
def rankOf (coefficient : Nat) (place : Int) : Nat :=
  let leading := place + digitCount coefficient
  if coefficient = 0 then 0
  else if 400 < leading then Binary64.infinityRank
  else if leading < -400 then 0
  else Binary64.nearestRank (coefficient * Nat.pow 10 place.toNat) (Nat.pow 10 (-place).toNat)

def toFloat : Numeral → Float
  | notANumber => Binary64.notANumber
  | infinite negative => Binary64.ofRank negative Binary64.infinityRank
  | decimal negative coefficient place => Binary64.ofRank negative (rankOf coefficient place)

example : read? "-.5e1" = some (decimal true 5 0) := by decide +kernel
example : read? "1." = some (decimal false 1 0) := by decide +kernel
example : read? "." = none := by decide +kernel
example : read? "1e" = none := by decide +kernel
example : read? "+InFiNiTy" = some (infinite false) := by decide +kernel

end Numeral

end LineCalculator
