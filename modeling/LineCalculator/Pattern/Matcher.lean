import LineCalculator.Pattern.CharSet
import LineCalculator.Text.Bytes

/-!
# Matchers

A matcher says which texts are meant. Matchers are put together by `concat`, `alternatives` and
`repeated`, which keep them small: neighbouring texts are one text, single characters to choose from
are one set, and what a choice begins with in every branch stands in front of it.
-/
namespace LineCalculator.Pattern

/-- What stands before and after a place in a message. -/
structure Surroundings where
  before : Option Char
  after : Option Char
  deriving DecidableEq, Repr

inductive Look where
  | textStart
  | textStop
  | lineStart
  | lineStop
  /-- Lines that end at a carriage return too. -/
  | returnStart
  | returnStop
  /-- An assertion about words of ASCII letters and digits. -/
  | word (assertion : Assertion)
  /-- An assertion about words of letters of all kinds, for which there are no tables. -/
  | unicodeWord (assertion : Assertion)
  deriving DecidableEq, Hashable, Repr

def isWordChar (c : Option Char) : Bool := c.any wordRanges.holds

namespace Look

def holds (s : Surroundings) : Look → Bool
  | textStart => s.before.isNone
  | textStop => s.after.isNone
  | lineStart => s.before.isNone || s.before = some '\n'
  | lineStop => s.after.isNone || s.after = some '\n'
  | returnStart =>
    s.before.isNone || s.before = some '\n' || (s.before = some '\r' && s.after ≠ some '\n')
  | returnStop =>
    s.after.isNone || s.after = some '\r' || (s.after = some '\n' && s.before ≠ some '\r')
  | word a =>
    let before := isWordChar s.before
    let after := isWordChar s.after
    match a with
    | .wordBoundary => before != after
    | .noWordBoundary => before == after
    | .wordStart => !before && after
    | .wordStop => before && !after
    | .wordStartHalf => !before
    | .wordStopHalf => !after
    | _ => false
  | unicodeWord _ => false

end Look

inductive Matcher where
  | nothing
  /-- One character after the other. -/
  | literal (chars : List Char)
  | set (ranges : Ranges)
  | look (look : Look)
  | many (count : Count) (body : Matcher)
  | group (number : Nat) (body : Matcher)
  | sequence (first second : Matcher)
  | choice (first second : Matcher)
  deriving DecidableEq, Hashable, Repr

namespace Matcher

def ofRanges : Ranges → Matcher
  | [(a, b)] => if a = b then literal [Char.ofNat a] else set [(a, b)]
  | ranges => set ranges

def parts : Matcher → List Matcher
  | sequence a b => a :: b.parts
  | m => [m]

def ofParts : List Matcher → Matcher
  | [] => nothing
  | [m] => m
  | m :: ms => sequence m (ofParts ms)

def consPart : Matcher → List Matcher → List Matcher
  | nothing, ms => ms
  | literal a, literal b :: ms => literal (a ++ b) :: ms
  | m, ms => m :: ms

def concat (ms : List Matcher) : Matcher := ofParts ((ms.flatMap parts).foldr consPart [])

def branches : Matcher → List Matcher
  | choice a b => a :: b.branches
  | m => [m]

def ofBranches : List Matcher → Matcher
  | [] => set []
  | [m] => m
  | m :: ms => choice m (ofBranches ms)

def singleChar? : Matcher → Option Char
  | literal [c] => some c
  | _ => none

def ranges? : Matcher → Option Ranges
  | set ranges => some ranges
  | _ => none

/-- The set that branches amount to, if all of them are single characters, or all of them sets. -/
def commonSet? (ms : List Matcher) : Option Ranges :=
  match ms.mapM singleChar?, ms.mapM ranges? with
  | some chars, _ => some (Ranges.normalize (chars.map fun c => (c.toNat, c.toNat)))
  | none, some sets => some (Ranges.normalize sets.flatten)
  | none, none => none

/-- A choice between matchers, the branches of which may be choices too. -/
def oneOf (ms : List Matcher) : Matcher :=
  match ms.flatMap branches with
  | [m] => m
  | ms =>
    match commonSet? ms with
    | some ranges => ofRanges ranges
    | none => ofBranches ms

def commonFront : List Matcher → List Matcher → List Matcher
  | a :: as, b :: bs => if a = b then a :: commonFront as bs else []
  | _, _ => []

/-- What all branches begin with, if there are several parts in each. -/
def front : List Matcher → List Matcher
  | [] => []
  | m :: ms =>
    if (m :: ms).all fun b => 1 < b.parts.length then
      ms.foldl (fun shared b => commonFront shared b.parts) m.parts
    else []

/-- A choice between matchers, what they begin with being put in front. -/
def alternatives (ms : List Matcher) : Matcher :=
  match ms.flatMap branches with
  | [m] => m
  | ms =>
    match commonSet? ms with
    | some ranges => ofRanges ranges
    | none =>
      match front ms with
      | [] => ofBranches ms
      | shared =>
        concat (shared ++ [oneOf (ms.map fun m => concat (m.parts.drop shared.length))])

/-- The least size of a text that is matched; none for a matcher without a text. -/
def leastSize : Matcher → Option Nat
  | nothing => some 0
  | literal cs => some (Text.byteLength cs)
  | set ranges => ranges.head?.map fun r => (Char.ofNat r.1).utf8Size
  | look _ => some 0
  | many count m => m.leastSize.map (· * count.least)
  | group _ m => m.leastSize
  | sequence a b => do return (← a.leastSize) + (← b.leastSize)
  | choice a b => do return min (← a.leastSize) (← b.leastSize)

/-- The greatest size of a text that is matched; none for a matcher without a text or a bound. -/
def greatestSize : Matcher → Option Nat
  | nothing => some 0
  | literal cs => some (Text.byteLength cs)
  | set ranges => ranges.getLast?.map fun r => (Char.ofNat r.2).utf8Size
  | look _ => some 0
  | many count m => do return (← m.greatestSize) * (← count.most)
  | group _ m => m.greatestSize
  | sequence a b => do return (← a.greatestSize) + (← b.greatestSize)
  | choice a b => do return max (← a.greatestSize) (← b.greatestSize)

/-- A matcher several times. Where nothing but the empty text is matched, one turn is enough. -/
def repeated (count : Count) (m : Matcher) : Matcher :=
  let count : Count :=
    if m.greatestSize = some 0 then
      { count with least := min count.least 1, most := some (min (count.most.getD 1) 1) }
    else count
  if count.most = some 0 then nothing
  else if count.least = 1 && count.most = some 1 then m
  else many count m

/-- Whether a matcher asks about words of letters of all kinds. -/
def usesUnicodeWords : Matcher → Bool
  | look (.unicodeWord _) => true
  | many _ m => m.usesUnicodeWords
  | group _ m => m.usesUnicodeWords
  | sequence a b => a.usesUnicodeWords || b.usesUnicodeWords
  | choice a b => a.usesUnicodeWords || b.usesUnicodeWords
  | _ => false

end Matcher

end LineCalculator.Pattern
