import LineCalculator.Pattern.Syntax

/-!
# Ranges of characters as bytes

The encodings of the characters in a range, given by sequences of ranges of bytes: an encoding
belongs to the range if each of its bytes lies in the byte range at the same position of one
sequence.
-/
namespace LineCalculator.Pattern

/-- The bytes from one to another, both included. -/
abbrev ByteRange := Nat × Nat

namespace Encoding

/-- Sequences for the numbers from `low` to `high`, written in bytes of six bits after the first
byte, to which `base` is added. -/
def blocks : (more : Nat) → (base low high : Nat) → List (List ByteRange)
  | 0, base, low, high => [[(base + low, base + high)]]
  | more + 1, base, low, high =>
    let size := 64 ^ (more + 1)
    let a := low / size
    let b := high / size
    let inside (head least greatest : Nat) : List (List ByteRange) :=
      (blocks more 0x80 least greatest).map ((base + head, base + head) :: ·)
    if a = b then inside a (low % size) (high % size)
    else
      let first := if low % size = 0 then [] else inside a (low % size) (size - 1)
      let last := if high % size = size - 1 then [] else inside b 0 (high % size)
      let start := if low % size = 0 then a else a + 1
      let stop := if high % size = size - 1 then b + 1 else b
      let middle :=
        if start < stop then
          [(base + start, base + stop - 1) :: List.replicate (more + 1) (0x80, 0xBF)]
        else []
      first ++ middle ++ last

/-- The lengths of encodings: the bytes after the first, what is added to the first byte, and the
code points that have such encodings. -/
def lengths : List (Nat × Nat × Nat × Nat) :=
  [(0, 0, 0, 0x7F), (1, 0xC0, 0x80, 0x7FF), (2, 0xE0, 0x800, 0xD7FF), (2, 0xE0, 0xE000, 0xFFFF),
    (3, 0xF0, 0x10000, 0x10FFFF)]

/-- Sequences for a range of characters, in increasing order. -/
def ofRange (r : Nat × Nat) : List (List ByteRange) :=
  lengths.flatMap fun (more, base, first, last) =>
    let low := max r.1 first
    let high := min r.2 last
    if low ≤ high then blocks more base low high else []

def ofRanges (ranges : Ranges) : List (List ByteRange) := ranges.flatMap ofRange

example : ofRange (0x61, 0xE9) = [[(0x61, 0x7F)], [(0xC2, 0xC2), (0x80, 0xBF)],
    [(0xC3, 0xC3), (0x80, 0xA9)]] := by decide

end Encoding

end LineCalculator.Pattern
