/-!
# The syntax of patterns

A pattern says which messages are meant. Its tree keeps, for every part that may turn out to be
unusable, the stretch of the text that the part was read from.
-/
namespace LineCalculator.Pattern

/-- A place in a text, lines and columns being counted from one. -/
structure Place where
  line : Nat
  column : Nat
  deriving DecidableEq, Repr

/-- The text from one place up to another, which does not belong to it. -/
structure Stretch where
  start : Place
  stop : Place
  deriving DecidableEq, Repr

inductive Flag where
  | caseless
  | multiLine
  /-- The point stands for a line feed too. -/
  | pointAll
  | swapGreed
  | unicode
  /-- A carriage return ends a line too. -/
  | returns
  /-- Blanks and comments in the pattern mean nothing. -/
  | spaced
  deriving DecidableEq, Repr

namespace Flag

def ofChar? : Char → Option Flag
  | 'i' => some caseless
  | 'm' => some multiLine
  | 's' => some pointAll
  | 'U' => some swapGreed
  | 'u' => some unicode
  | 'R' => some returns
  | 'x' => some spaced
  | _ => none

end Flag

/-- Flags that are switched on or off. -/
abbrev FlagChanges := List (Flag × Bool)

/-- A character that stands for itself. -/
structure Literal where
  stretch : Stretch
  char : Char
  /-- Written as the number of a byte. -/
  isByte : Bool := false
  deriving DecidableEq, Repr

/-- Ranges of code points, both ends included. -/
abbrev Ranges := List (Nat × Nat)

def digitRanges : Ranges := [(0x30, 0x39)]

def spaceRanges : Ranges := [(0x09, 0x0D), (0x20, 0x20)]

def wordRanges : Ranges := [(0x30, 0x39), (0x41, 0x5A), (0x5F, 0x5F), (0x61, 0x7A)]

/-- The sets of ASCII characters that have names. -/
def namedRanges : List (String × Ranges) :=
  [("alnum", [(0x30, 0x39), (0x41, 0x5A), (0x61, 0x7A)]),
    ("alpha", [(0x41, 0x5A), (0x61, 0x7A)]),
    ("ascii", [(0x00, 0x7F)]),
    ("blank", [(0x09, 0x09), (0x20, 0x20)]),
    ("cntrl", [(0x00, 0x1F), (0x7F, 0x7F)]),
    ("digit", digitRanges),
    ("graph", [(0x21, 0x7E)]),
    ("lower", [(0x61, 0x7A)]),
    ("print", [(0x20, 0x7E)]),
    ("punct", [(0x21, 0x2F), (0x3A, 0x40), (0x5B, 0x60), (0x7B, 0x7E)]),
    ("space", spaceRanges),
    ("upper", [(0x41, 0x5A)]),
    ("word", wordRanges),
    ("xdigit", [(0x30, 0x39), (0x41, 0x46), (0x61, 0x66)])]

/-- How two sets of characters are combined. -/
inductive SetOperation where
  | intersection
  | difference
  | symmetricDifference
  deriving DecidableEq, Repr

/-- A written set of characters. -/
inductive SetTree where
  | empty (stretch : Stretch)
  | literal (literal : Literal)
  | range (first last : Literal)
  /-- A set that has a name. -/
  | named (stretch : Stretch) (negated : Bool) (ranges : Ranges)
  /-- Digits, blanks or the characters of words. -/
  | short (stretch : Stretch) (negated : Bool) (ranges : Ranges)
  /-- A property of characters, by its name. -/
  | property (stretch : Stretch) (name : List Char)
  | bracket (stretch : Stretch) (negated : Bool) (inner : SetTree)
  | union (stretch : Stretch) (members : List SetTree)
  | combine (operation : SetOperation) (left right : SetTree)
  deriving Repr

namespace SetTree

def stretch : SetTree → Stretch
  | empty s => s
  | literal l => l.stretch
  | range first last => ⟨first.stretch.start, last.stretch.stop⟩
  | named s _ _ => s
  | short s _ _ => s
  | property s _ => s
  | bracket s _ _ => s
  | union s _ => s
  | combine _ left right => ⟨left.stretch.start, right.stretch.stop⟩

end SetTree

/-- What can be asked about a place in a message. -/
inductive Assertion where
  | lineStart
  | lineStop
  | textStart
  | textStop
  | wordBoundary
  | noWordBoundary
  | wordStart
  | wordStop
  | wordStartHalf
  | wordStopHalf
  deriving DecidableEq, Hashable, Repr

structure Count where
  least : Nat
  /-- No bound if there is none. -/
  most : Option Nat
  /-- Whether many turns are tried before few. -/
  greedy : Bool := true
  deriving DecidableEq, Hashable, Repr

inductive Tree where
  | empty (stretch : Stretch)
  | flags (stretch : Stretch) (changes : FlagChanges)
  | literal (literal : Literal)
  /-- Any character. -/
  | point (stretch : Stretch)
  | assertion (stretch : Stretch) (assertion : Assertion)
  | set (set : SetTree)
  | many (stretch : Stretch) (count : Count) (body : Tree)
  /-- A group, which has a number if what it matches can be asked for. -/
  | group (stretch : Stretch) (number : Option Nat) (changes : FlagChanges) (body : Tree)
  | sequence (stretch : Stretch) (parts : List Tree)
  | choice (stretch : Stretch) (branches : List Tree)
  deriving Repr

namespace Tree

def stretch : Tree → Stretch
  | empty s => s
  | flags s _ => s
  | literal l => l.stretch
  | point s => s
  | assertion s _ => s
  | set t => t.stretch
  | many s _ _ => s
  | group s _ _ _ => s
  | sequence s _ => s
  | choice s _ => s

/-- Parts one after the other; a single part stands alone. -/
def ofParts (stretch : Stretch) : List Tree → Tree
  | [] => empty stretch
  | [t] => t
  | ts => sequence stretch ts

/-- A choice between branches; a single branch stands alone. -/
def ofBranches (stretch : Stretch) : List Tree → Tree
  | [] => empty stretch
  | [t] => t
  | ts => choice stretch ts

end Tree

end LineCalculator.Pattern
