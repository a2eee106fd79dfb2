import LineCalculator.Pattern.Encoding
import LineCalculator.Pattern.Matcher

/-!
# The size of a pattern

A matcher stands for an automaton that reads a message byte by byte, and for another one that reads
it from the end. A pattern is usable only if each of the two stays within a limit. The size of an
automaton is that of its states: every state has a fixed size, and its further ways out are added.
-/
namespace LineCalculator.Pattern

/-- The way in which a message is read. -/
inductive Direction where
  | forward
  | backward
  deriving DecidableEq, Repr

namespace Size

/-- The size of a state, in bytes. -/
def state : Nat := 32

def way : Nat := 4

def byteWay : Nat := 8

def fork : Nat := state + 2 * way

/-- One byte out of several ranges, and the state after it. -/
def byteSet (count : Nat) : Nat := 2 * state + count * byteWay

def heads {α : Type} [DecidableEq α] (lists : List (List α)) : List α :=
  (lists.filterMap List.head?).eraseDups

def tails {α : Type} [DecidableEq α] (head : α) (lists : List (List α)) : List (List α) :=
  lists.filterMap fun l => if l.head? = some head then some l.tail else none

/-- The states behind which sequences of at most `length` ranges remain, each given by these. -/
def remainders : (length : Nat) → List (List ByteRange) → List (List (List ByteRange))
  | 0, _ => []
  | length + 1, sequences =>
    if (heads sequences).isEmpty then []
    else
      sequences ::
        (heads sequences).flatMap fun head => remainders length (tails head sequences)

/-- Sequences read forward: equal remainders share a state. -/
def sharedEnds (sequences : List (List ByteRange)) : Nat :=
  let states := (remainders 4 sequences).eraseDups.map fun r => state + (heads r).length * byteWay
  states.foldl (· + ·) state

/-- Sequences read from the end: equal beginnings share their states. -/
def sharedStarts (sequences : List (List ByteRange)) : Nat :=
  let beginnings := sequences.flatMap fun s => (List.range s.length).map fun n => s.take (n + 1)
  2 * state + sequences.length * way + beginnings.eraseDups.length * state

def set (direction : Direction) (ranges : Ranges) : Nat :=
  if ranges.all (·.2 < 0x80) then byteSet ranges.length
  else
    match direction with
    | .forward => sharedEnds (Encoding.ofRanges ranges)
    | .backward => sharedStarts (Encoding.ofRanges ranges)

/-- Words between those that are empty. -/
def segments (words : List (List UInt8)) : List (List (List UInt8)) :=
  words.foldr
    (fun w found =>
      if w.isEmpty then [] :: found
      else
        match found with
        | [] => [[w]]
        | segment :: more => (w :: segment) :: more)
    [[]]

/-- Of several empty words in front, one. -/
def joinEmpty : List (List UInt8) → List (List UInt8)
  | [] :: ws => [] :: ws.dropWhile List.isEmpty
  | ws => ws

/-- A state for words of at most `length` bytes with all states behind it. Words with the same
beginning share states as long as no word ends between them. -/
def branching : (length : Nat) → List (List UInt8) → Nat
  | 0, _ => 0
  | length + 1, words =>
    if words.all List.isEmpty then 0
    else
      let pieces := segments (joinEmpty words)
      let filled := pieces.filter (!·.isEmpty)
      let behind := filled.map fun piece =>
        let firsts := heads piece
        state + (if firsts.length = 1 then 0 else firsts.length * byteWay) +
          (firsts.map fun b => branching length (tails b piece)).sum
      state + (filled.length + (pieces.length - 1)) * way + behind.sum

def words (ws : List (List UInt8)) : Nat :=
  state + branching ((ws.map List.length).foldl max 0 + 1) ws

end Size

namespace Matcher

def word? (direction : Direction) : Matcher → Option (List UInt8)
  | literal cs =>
    let bytes := cs.flatMap String.utf8EncodeChar
    some (if direction = .forward then bytes else bytes.reverse)
  | _ => none

def turnsSize (count : Count) (size : Nat) (canBeEmpty : Bool) : Nat :=
  open Size in
  match count.least, count.most with
  | 0, none => if canBeEmpty then size + 2 * fork + state else size + fork
  | n, none => n * size + fork
  | 0, some 1 => size + fork + state
  | n, some m =>
    if n = m then n * size
    else (if n = 0 then state else n * size) + state + (m - n) * (size + fork)

/-- The size of the states for a matcher; as a branch of a choice, with the way to it. -/
def size (direction : Direction) (branch : Bool) : Matcher → Nat
  | choice a b =>
    let all := Size.way + a.size direction false + b.size direction true
    if branch then all
    else
      match (choice a b).branches.mapM (word? direction) with
      | some ws => Size.words ws
      | none => 2 * Size.state + all
  | nothing => Size.state + if branch then Size.way else 0
  | literal cs => Text.byteLength cs * Size.state + if branch then Size.way else 0
  | set ranges => Size.set direction ranges + if branch then Size.way else 0
  | look _ => Size.state + if branch then Size.way else 0
  | many count m =>
    turnsSize count (m.size direction false) (m.leastSize.all (· = 0)) +
      if branch then Size.way else 0
  | group _ m =>
    m.size direction false + (if direction = .forward then 2 * Size.state else 0) +
      if branch then Size.way else 0
  | sequence a b =>
    a.size direction false + b.size direction false + if branch then Size.way else 0

/-- Whether a match can only be at the place where reading begins. -/
def isAnchored (direction : Direction) : Matcher → Bool
  | look l => l = if direction = .forward then .textStart else .textStop
  | many count m => 0 < count.least && m.isAnchored direction
  | group _ m => m.isAnchored direction
  | sequence a b =>
    match direction with
    | .forward => a.isAnchored direction || (a.greatestSize = some 0 && b.isAnchored direction)
    | .backward => b.isAnchored direction || (b.greatestSize = some 0 && a.isAnchored direction)
  | choice a b => a.isAnchored direction && b.isAnchored direction
  | _ => false

/-- The size of the automaton for a matcher: a way to pass what stands before a match, the states
for the matcher, which is a group too, and a last state. -/
def automatonSize (direction : Direction) (m : Matcher) : Nat :=
  (if m.isAnchored direction then Size.state else Size.byteSet 1 + Size.fork) +
    (group 0 m).size direction false + Size.state

end Matcher

/-- The size that an automaton may have, in bytes. -/
def sizeLimit : Nat := 10 * Nat.pow 2 20

example : (Matcher.many ⟨327673, some 327673, true⟩ (.literal ['a'])).automatonSize .forward ≤
    sizeLimit := by decide

end LineCalculator.Pattern
