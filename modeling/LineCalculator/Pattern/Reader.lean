import LineCalculator.Pattern.Bracket
import LineCalculator.Text.Letters

/-!
# Reading patterns

A pattern is read from front to back. Groups that are open stand on a stack, each with what was
read before it.
-/
namespace LineCalculator.Pattern

/-- A sign between `?` and `:` or `)`: a flag, or the sign that negates what follows. -/
structure FlagSign where
  stretch : Stretch
  flag : Option Flag

def changesOf (value : Bool) : List FlagSign → FlagChanges
  | [] => []
  | ⟨_, none⟩ :: rest => changesOf false rest
  | ⟨_, some flag⟩ :: rest => (flag, value) :: changesOf value rest

/-- Read flags up to the sign that ends them; `before` are those already read, the last first. -/
def readFlags (before : List FlagSign) (c : Cursor) : Except Problem (FlagChanges × Cursor) :=
  if h : c.rest = [] then complain .flagUnfinished c.point
  else
    let ch := (c.rest.head h).1
    if ch = ':' || ch = ')' then
      match before with
      | ⟨stretch, none⟩ :: _ => complain .flagDanglingNegation stretch
      | before => .ok (changesOf true before.reverse, c)
    else
      match if ch = '-' then some none else (Flag.ofChar? ch).map some with
      | none => complain .flagUnknown c.charStretch
      | some flag =>
        match before.find? (·.flag = flag) with
        | some old =>
          .error {
            complaint := if flag.isNone then .flagRepeatedNegation else .flagDuplicate
            stretch := c.charStretch
            other := some old.stretch }
        | none => readFlags (⟨c.charStretch, flag⟩ :: before) c.next
termination_by c.rest.length
decreasing_by exact Cursor.length_next_lt h

/-- The name of a group, with its stretch. -/
abbrev GroupName := List Char × Stretch

def isNameStart (c : Char) : Bool := c = '_' || Text.isLetter c

def isNameChar (c : Char) : Bool :=
  c = '_' || c = '.' || c = '[' || c = ']' || Text.isLetterOrNumber c

def readName (c : Cursor) : Except Problem (GroupName × Cursor) :=
  match c.char? with
  | none => complain .nameUnclosed c.point
  | some '>' => complain .nameEmpty c.point
  | some first =>
    if !isNameStart first then complain .nameCharacter c.charStretch
    else
      let more := c.next.rest.takeWhile fun (ch, _) => isNameChar ch
      let last := { c with rest := c.next.rest.drop more.length }
      match last.char? with
      | none => complain .nameUnclosed last.point
      | some '>' => .ok ((first :: more.map (·.1), last.since c.here), last.next)
      | some _ => complain .nameCharacter last.charStretch

/-- Whether what a group matches can be asked for, and by which name. -/
inductive GroupKind where
  | plain
  | numbered
  | named (name : GroupName)
  deriving DecidableEq

def GroupKind.name? : GroupKind → Option GroupName
  | named name => some name
  | _ => none

/-- What an opening parenthesis begins: a change of flags, or a group. -/
inductive Opening where
  | flags (changes : FlagChanges)
  | group (kind : GroupKind) (changes : FlagChanges)

/-- Read what belongs to an opening parenthesis. -/
def readOpening (c : Cursor) : Except Problem (Opening × Cursor) := do
  let opening := c.charStretch
  let c := c.step
  match ["?=", "?!", "?<=", "?<!"].findSome? c.pass? with
  | some rest => complain .lookAround (rest.since opening.start)
  | none =>
    match c.pass? "?P<" <|> c.pass? "?<", c.pass? "?" with
    | some rest, _ =>
      let (name, rest) ← readName rest
      return (.group (.named name) [], rest)
    | none, some rest =>
      if rest.atEnd then complain .groupUnclosed opening
      else
        let (changes, last) ← readFlags [] rest
        if last.char? = some ':' then return (.group .plain changes, last.next)
        else if changes.isEmpty then complain .repetitionMissing c.point
        else return (.flags changes, last.next)
    | none, none => return (.group .numbered [], c)

/-- A decimal number, or why there is none, and where the reading goes on in either case. -/
def readDecimal (c : Cursor) : Except Problem Nat × Cursor :=
  let c := { c with rest := c.rest.dropWhile fun (ch, _) => Text.isWhiteSpace ch }
  let (digits, last) := c.collect Char.isDigit
  let stretch := last.since c.here
  let value := Escape.numberOf 10 (digits.map Escape.hexValue)
  (if digits.isEmpty then complain .countEmpty stretch
    else if value < Nat.pow 2 32 then .ok value
    else complain .decimalTooLarge stretch,
    (last.collect Text.isWhiteSpace).2)

/-- Read the bounds of a count that began at a place, up to the sign after them. The lower bound,
or why there is none, has been read. -/
def readBounds (start : Place) (least : Except Problem Nat) (c : Cursor) :
    Except Problem ((Nat × Option Nat) × Cursor) :=
  match c.char? with
  | none => complain .countUnclosed (c.since start)
  | some ',' =>
    match c.step.char? with
    | none => complain .countUnclosed (c.step.since start)
    | some '\x7d' => do return ((← least, none), c.step)
    | some _ => do
      let least ← least
      let (most, c) := readDecimal c.step
      return ((least, some (← most)), c)
  | some _ => do
    let n ← least
    return ((n, some n), c)

/-- Read how often something is repeated; the cursor stands at the opening brace. -/
def readCount (c : Cursor) : Except Problem (Count × Cursor) := do
  let start := c.here
  if c.step.atEnd then complain .countUnclosed (c.step.since start)
  else
    let (least, c) := readDecimal c.step
    let ((least, most), c) ← readBounds start least c
    if c.char? ≠ some '\x7d' then complain .countUnclosed (c.since start)
    else
      let c := c.step
      let lazy := c.char? = some '?'
      let c := if lazy then c.next else c
      if most.any (· < least) then complain .countRange (c.since start)
      else return (⟨least, most, !lazy⟩, c)

/-- A group that is open, with what was read before it. -/
structure Frame where
  opening : Stretch
  number : Option Nat
  changes : FlagChanges
  spaced : Bool
  items : List Tree
  itemsStart : Place
  branches : List Tree
  branchesStart : Place

/-- How far a pattern has been read. Lists of trees have the last one first. -/
structure State where
  cursor : Cursor
  items : List Tree := []
  /-- Where the branch at hand begins. -/
  itemsStart : Place
  /-- The branches that are complete. -/
  branches : List Tree := []
  /-- Where the first branch begins. -/
  branchesStart : Place
  outer : List Frame := []
  names : List GroupName := []
  /-- How many groups have numbers. -/
  numbered : Nat := 0

namespace State

def branch (s : State) : Tree := .ofParts (s.cursor.since s.itemsStart) s.items.reverse

def tree (s : State) : Tree :=
  .ofBranches (s.cursor.since s.branchesStart) (s.branch :: s.branches).reverse

def push (s : State) (t : Tree) (c : Cursor) : State :=
  { s with items := t :: s.items, cursor := c }

def openGroup (s : State) : Except Problem State := do
  match ← readOpening s.cursor with
  | (.flags changes, c) =>
    let spaced := (changes.lookup .spaced).getD c.spaced
    return s.push (.flags (c.since s.cursor.here) changes) { c with spaced }
  | (.group kind changes, c) =>
    let spaced := (changes.lookup .spaced).getD c.spaced
    let frame : Frame :=
      { opening := s.cursor.charStretch
        number := if kind = .plain then none else some (s.numbered + 1)
        changes
        spaced := c.spaced
        items := s.items
        itemsStart := s.itemsStart
        branches := s.branches
        branchesStart := s.branchesStart }
    let name := kind.name?
    match name, name.bind fun (n, _) => s.names.find? (·.1 = n) with
    | some (_, stretch), some (_, earlier) =>
      .error { complaint := .nameDuplicate, stretch, other := some earlier }
    | name, _ =>
      return {
        cursor := { c with spaced }
        itemsStart := c.here
        branchesStart := c.here
        outer := frame :: s.outer
        names := name.toList ++ s.names
        numbered := s.numbered + if kind = .plain then 0 else 1 }

def closeGroup (s : State) : Except Problem State :=
  match s.outer with
  | [] => complain .groupUnopened s.cursor.charStretch
  | frame :: outer =>
    let rest := s.cursor.next
    let t := .group (rest.since frame.opening.start) frame.number frame.changes s.tree
    .ok { s with
      cursor := { rest with spaced := frame.spaced }
      items := t :: frame.items
      itemsStart := frame.itemsStart
      branches := frame.branches
      branchesStart := frame.branchesStart
      outer }

def nextBranch (s : State) : State :=
  let cursor := s.cursor.next
  { s with cursor, items := [], itemsStart := cursor.here, branches := s.branch :: s.branches }

/-- Repeat the last item as often as is read; it is asked for first whether there is one. -/
def repeatLast (s : State) (read : Except Problem (Count × Cursor)) : Except Problem State := do
  match s.items with
  | [] => complain .repetitionMissing s.cursor.point
  | .flags _ _ :: _ => complain .repetitionMissing s.cursor.point
  | last :: before =>
    let (count, cursor) ← read
    let t := .many (cursor.since last.stretch.start) count last
    return { s with items := t :: before, cursor }

/-- Repetition by a sign, which a question mark may follow. -/
def repeatBySign (s : State) (least : Nat) (most : Option Nat) : Except Problem State :=
  let c := s.cursor.next
  let lazy := c.char? = some '?'
  s.repeatLast (.ok (⟨least, most, !lazy⟩, if lazy then c.next else c))

def advance (s : State) (ch : Char) : Except Problem State :=
  let c := s.cursor
  match ch with
  | '(' => s.openGroup
  | ')' => s.closeGroup
  | '|' => .ok s.nextBranch
  | '[' => do
    let (t, rest) ← Bracket.read c
    return s.push (.set t) rest
  | '?' => s.repeatBySign 0 (some 1)
  | '*' => s.repeatBySign 0 none
  | '+' => s.repeatBySign 1 none
  | '\x7b' => s.repeatLast (readCount c)
  | '\\' => do
    let (p, rest) ← Escape.read c
    return s.push p.tree rest
  | '.' => .ok (s.push (.point c.charStretch) c.next)
  | '^' => .ok (s.push (.assertion c.charStretch .lineStart) c.next)
  | '$' => .ok (s.push (.assertion c.charStretch .lineStop) c.next)
  | char => .ok (s.push (.literal { stretch := c.charStretch, char }) c.next)

/-- Read to the end. Every turn takes a character, so that as many turns as there are characters
are enough. -/
def finish : Nat → State → Except Problem Tree
  | 0, s => .ok s.tree
  | n + 1, s =>
    let s := { s with cursor := s.cursor.gap }
    match s.cursor.char?, s.outer with
    | some ch, _ => do finish n (← s.advance ch)
    | none, frame :: _ => complain .groupUnclosed frame.opening
    | none, [] => .ok s.tree

end State

def readTree (text : String) : Except Problem Tree :=
  let cursor := Cursor.ofString text
  State.finish (text.length + 1)
    { cursor, itemsStart := cursor.here, branchesStart := cursor.here }

end LineCalculator.Pattern
