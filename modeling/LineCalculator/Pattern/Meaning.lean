import LineCalculator.Pattern.Complaint
import LineCalculator.Pattern.Matcher

/-!
# What a pattern means

A tree becomes a matcher under flags. Unless the flag for it is switched off, a pattern is about
characters of all kinds; but there are no tables for their cases and properties, so that what asks
for these is refused. With the flag switched off, what could match a part of a character is refused.
-/
namespace LineCalculator.Pattern

structure Flags where
  caseless : Bool := false
  multiLine : Bool := false
  pointAll : Bool := false
  swapGreed : Bool := false
  unicode : Bool := true
  returns : Bool := false
  deriving DecidableEq, Repr

namespace Flags

def set (f : Flags) : Flag × Bool → Flags
  | (.caseless, v) => { f with caseless := v }
  | (.multiLine, v) => { f with multiLine := v }
  | (.pointAll, v) => { f with pointAll := v }
  | (.swapGreed, v) => { f with swapGreed := v }
  | (.unicode, v) => { f with unicode := v }
  | (.returns, v) => { f with returns := v }
  | (.spaced, _) => f

def change (f : Flags) (changes : FlagChanges) : Flags := changes.foldl set f

end Flags

/-- Whether a literal can be meant where patterns are not about characters of all kinds. -/
def Literal.checkByte (l : Literal) : Except Problem Unit :=
  if l.isByte && 128 ≤ l.char.toNat then complain .bytes l.stretch else .ok ()

def rangeSet (f : Flags) (first last : Literal) : Except Problem CharSet := do
  if !f.unicode then
    for l in [first, last] do
      l.checkByte
      if 128 ≤ l.char.toNat then complain .unicodeHere l.stretch
  return { ranges := [(first.char.toNat, last.char.toNat)] }

def foldCase (f : Flags) (stretch : Stretch) (set : CharSet) : Except Problem CharSet :=
  if !f.caseless || set.closed || set.ranges.isEmpty then .ok set
  else if f.unicode then complain .caseUnavailable stretch
  else .ok ⟨set.ranges.bothCases, true⟩

def negate (f : Flags) (stretch : Stretch) (negated : Bool) (set : CharSet) :
    Except Problem CharSet :=
  if !negated then .ok set
  else if f.unicode then .ok set.complement
  else complain .bytes stretch

/-- The name of a property without what does not matter in it: cases, blanks, hyphens, underscores,
characters that are not ASCII, and `is` in front. -/
def plainName (name : List Char) : List Char :=
  let body :=
    match name with
    | a :: b :: rest => if a.toLower = 'i' && b.toLower = 's' then rest else name
    | _ => name
  (body.filter fun c => c.toNat < 128 && c ≠ ' ' && c ≠ '_' && c ≠ '-').map Char.toLower

/-- What is missing for a property. Three names are taken for values of a property whatever
properties there are. -/
def missingFor (name : List Char) : Complaint :=
  if ["cf", "sc", "lc"].contains (String.ofList (plainName name)) then .valueUnavailable
  else .propertyUnavailable

mutual

def SetTree.meaning (f : Flags) : SetTree → Except Problem CharSet
  | .empty _ => .ok .empty
  | .literal l => rangeSet f l l
  | .range first last => rangeSet f first last
  | .named stretch negated ranges => do
    negate f stretch negated (← foldCase f stretch { ranges })
  | .short stretch negated ranges =>
    if f.unicode then complain .shortUnavailable stretch
    else negate f stretch negated { ranges }
  | .property stretch name =>
    complain (if f.unicode then missingFor name else .unicodeHere) stretch
  | .bracket stretch negated inner => do
    negate f stretch negated (← foldCase f stretch (← inner.meaning f))
  | .union _ members => SetTree.unionMeaning f members
  | .combine operation left right => do
    let a ← left.meaning f
    let b ← right.meaning f
    let b ← foldCase f right.stretch b
    let a ← foldCase f left.stretch a
    return CharSet.empty.union (a.combine b operation)

def SetTree.unionMeaning (f : Flags) : List SetTree → Except Problem CharSet
  | [] => .ok .empty
  | t :: ts => do
    let first ← t.meaning f
    return first.union (← SetTree.unionMeaning f ts)

end

def Assertion.meaning (f : Flags) : Assertion → Look
  | lineStart =>
    if !f.multiLine then .textStart else if f.returns then .returnStart else .lineStart
  | lineStop =>
    if !f.multiLine then .textStop else if f.returns then .returnStop else .lineStop
  | textStart => .textStart
  | textStop => .textStop
  | a => if f.unicode then .unicodeWord a else .word a

def pointRanges (f : Flags) : Ranges :=
  Ranges.complement
    (if f.pointAll then [] else if f.returns then [(0x0A, 0x0A), (0x0D, 0x0D)] else [(0x0A, 0x0A)])

mutual

/-- The matcher for a tree, and the flags after it. -/
def Tree.meaning (f : Flags) : Tree → Except Problem (Matcher × Flags)
  | .empty _ => .ok (.nothing, f)
  | .flags _ changes => .ok (.nothing, f.change changes)
  | .literal l => do
    if !f.unicode then l.checkByte
    if f.unicode || l.char.isAlpha then
      let set ← foldCase f l.stretch { ranges := [(l.char.toNat, l.char.toNat)] }
      return (.ofRanges set.ranges, f)
    else return (.literal [l.char], f)
  | .point stretch =>
    if !f.unicode then complain .bytes stretch else .ok (.set (pointRanges f), f)
  | .assertion _ a => .ok (.look (a.meaning f), f)
  | .set t => do return (.ofRanges (← t.meaning f).ranges, f)
  | .many _ count body => do
    let (m, f) ← body.meaning f
    return (m.repeated { count with greedy := count.greedy != f.swapGreed }, f)
  | .group _ number changes body => do
    let (m, _) ← body.meaning (f.change changes)
    match number with
    | some n => return (.group n m, f)
    | none => return (m, f)
  | .sequence _ parts => do
    let (ms, f) ← Tree.allMeanings f parts
    return (.concat ms, f)
  | .choice _ branches => do
    let (ms, f) ← Tree.allMeanings f branches
    return (.alternatives ms, f)

/-- The matchers for trees, each under the flags after the one before. -/
def Tree.allMeanings (f : Flags) : List Tree → Except Problem (List Matcher × Flags)
  | [] => .ok ([], f)
  | t :: ts => do
    let (m, f) ← t.meaning f
    let (ms, f) ← Tree.allMeanings f ts
    return (m :: ms, f)

end

end LineCalculator.Pattern
