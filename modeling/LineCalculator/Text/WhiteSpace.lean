/-!
# White space

The characters with the Unicode property `White_Space`, and the two trims that a line needs.
-/
namespace LineCalculator.Text

/-- Ranges of code points, both ends included. -/
def whiteSpaceRanges : List (Nat × Nat) :=
  [(0x0009, 0x000D), (0x0020, 0x0020), (0x0085, 0x0085), (0x00A0, 0x00A0), (0x1680, 0x1680),
    (0x2000, 0x200A), (0x2028, 0x2029), (0x202F, 0x202F), (0x205F, 0x205F), (0x3000, 0x3000)]

def isWhiteSpace (c : Char) : Bool :=
  whiteSpaceRanges.any fun (first, last) => first ≤ c.toNat && c.toNat ≤ last

/-- The property has 25 members. -/
example : (whiteSpaceRanges.map fun (first, last) => last + 1 - first).sum = 25 := by decide

/-- Only white space. -/
def isBlank (cs : List Char) : Bool := cs.all isWhiteSpace

def trimEnd (cs : List Char) : List Char := (cs.reverse.dropWhile isWhiteSpace).reverse

end LineCalculator.Text
