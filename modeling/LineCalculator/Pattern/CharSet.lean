import LineCalculator.Pattern.Syntax

/-!
# Sets of characters

A set is a list of ranges of code points in increasing order, between any two of which a code point
is missing.
-/
namespace LineCalculator.Pattern

namespace Ranges

def holds (ranges : Ranges) (c : Char) : Bool :=
  ranges.any fun (first, last) => first ≤ c.toNat && c.toNat ≤ last

def limit : Nat := 0x10FFFF

/-- The next code point that a character has; those from D800 to DFFF have none. -/
def succ (n : Nat) : Nat := if n = 0xD7FF then 0xE000 else n + 1

/-- The code point before that a character has. -/
def pred (n : Nat) : Nat := if n = 0xE000 then 0xD7FF else n - 1

/-- Put ranges in increasing order together with `current`, which begins before all of them. -/
def mergeFrom (current : Nat × Nat) : Ranges → Ranges
  | [] => [current]
  | r :: rs =>
    if r.1 ≤ current.2 + 1 then mergeFrom (current.1, max current.2 r.2) rs
    else current :: mergeFrom r rs

def normalize (ranges : Ranges) : Ranges :=
  match ranges.mergeSort fun a b => a.1 < b.1 || (a.1 = b.1 && a.2 ≤ b.2) with
  | [] => []
  | r :: rs => mergeFrom r rs

def union (a b : Ranges) : Ranges := normalize (a ++ b)

def intersection (a b : Ranges) : Ranges :=
  a.flatMap fun r => b.filterMap fun s =>
    let low := max r.1 s.1
    let high := min r.2 s.2
    if low ≤ high then some (low, high) else none

/-- What is left of a range without another one. -/
def rangeWithout (s r : Nat × Nat) : Ranges :=
  if s.2 < r.1 || r.2 < s.1 then [r]
  else
    (if r.1 < s.1 then [(r.1, pred s.1)] else []) ++
      if s.2 < r.2 then [(succ s.2, r.2)] else []

def difference (a b : Ranges) : Ranges := b.foldl (fun left s => left.flatMap (rangeWithout s)) a

/-- What lies between ranges, of which `low` is the last code point so far. Between D7FF and E000
there is nothing, and these two are taken instead. -/
def gapsFrom (low : Nat) : Ranges → Ranges
  | [] => if low < limit then [(succ low, limit)] else []
  | r :: rs => (min (succ low) (pred r.1), max (succ low) (pred r.1)) :: gapsFrom r.2 rs

def complement : Ranges → Ranges
  | [] => [(0, limit)]
  | r :: rs => (if 0 < r.1 then [(0, pred r.1)] else []) ++ gapsFrom r.2 rs

/-- With every ASCII letter, the same letter in the other case. -/
def bothCases (ranges : Ranges) : Ranges :=
  let lower := intersection ranges [(0x61, 0x7A)]
  let upper := intersection ranges [(0x41, 0x5A)]
  normalize (ranges ++ lower.map (fun (a, b) => (a - 32, b - 32)) ++
    upper.map fun (a, b) => (a + 32, b + 32))

example : complement [(0x30, 0x39), (0x41, 0x5A)] =
    [(0, 0x2F), (0x3A, 0x40), (0x5B, 0x10FFFF)] := by decide
example : complement (complement [(0x41, 0x41)]) = [(0x41, 0x41)] := by decide
example : difference [(0x61, 0x7A)] [(0x64, 0x66)] = [(0x61, 0x63), (0x67, 0x7A)] := by decide

end Ranges

structure CharSet where
  ranges : Ranges
  /-- Known to have every letter in all of its cases. -/
  closed : Bool := false
  deriving DecidableEq, Repr

namespace CharSet

def empty : CharSet := ⟨[], true⟩

def union (a b : CharSet) : CharSet :=
  if b.ranges.isEmpty || a.ranges = b.ranges then a
  else ⟨a.ranges.union b.ranges, a.closed && b.closed⟩

def intersection (a b : CharSet) : CharSet :=
  if a.ranges.isEmpty then a
  else if b.ranges.isEmpty then empty
  else ⟨a.ranges.intersection b.ranges, a.closed && b.closed⟩

def difference (a b : CharSet) : CharSet :=
  if a.ranges.isEmpty || b.ranges.isEmpty then a
  else ⟨a.ranges.difference b.ranges, a.closed && b.closed⟩

def complement (a : CharSet) : CharSet :=
  ⟨a.ranges.complement, a.closed || a.ranges.isEmpty⟩

def combine (a b : CharSet) : SetOperation → CharSet
  | .intersection => a.intersection b
  | .difference => a.difference b
  | .symmetricDifference => (a.union b).difference (a.intersection b)

end CharSet

end LineCalculator.Pattern
