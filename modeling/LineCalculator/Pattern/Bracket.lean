import LineCalculator.Pattern.Escape

/-!
# Sets of characters in brackets

A set in brackets lists characters, ranges and other sets. Sets are combined by the operators for
intersection and difference, the leftmost first.
-/
namespace LineCalculator.Pattern.Bracket

/-- A bracket that is open. -/
structure Level where
  start : Place
  /-- The stretch to point at when the bracket is not closed. -/
  opening : Stretch
  negated : Bool
  /-- What an operator waits to combine. -/
  pending : Option (SetOperation × SetTree) := none
  /-- The place where the list at hand begins. -/
  listStart : Place
  /-- The members of the list at hand, the last first. -/
  items : List SetTree := []

namespace Level

def push (level : Level) (t : SetTree) : Level := { level with items := t :: level.items }

def list (level : Level) : SetTree :=
  match level.items, level.items.reverse with
  | [t], _ => t
  | last :: _, first :: _ =>
    .union ⟨first.stretch.start, last.stretch.stop⟩ level.items.reverse
  | _, _ => .empty ⟨level.listStart, level.listStart⟩

def tree (level : Level) : SetTree :=
  match level.pending with
  | none => level.list
  | some (operation, before) => .combine operation before level.list

def operate (level : Level) (operation : SetOperation) (here : Place) : Level :=
  { level with pending := some (operation, level.tree), listStart := here, items := [] }

end Level

/-- Hyphens right after the opening stand for themselves. -/
def leadingHyphens (start : Place) : Nat → Level → Cursor → Except Problem (Level × Cursor)
  | 0, level, c => .ok (level, c)
  | n + 1, level, c =>
    if c.char? = some '-' then
      let level := level.push (.literal { stretch := c.charStretch, char := '-' })
      if c.step.atEnd then complain .setUnclosed ⟨start, start⟩
      else leadingHyphens start n level c.step
    else .ok (level, c)

/-- Read an opening bracket with what belongs to it: a sign of negation, hyphens, and a closing
bracket in first place, which stands for itself. -/
def readOpening (c : Cursor) : Except Problem (Level × Cursor) := do
  let start := c.here
  let c := c.step
  if c.atEnd then complain .setUnclosed (c.since start)
  else
    let negated := c.char? = some '^'
    let c := if negated then c.step else c
    if c.atEnd then complain .setUnclosed (c.since start)
    else
      let level : Level := { start, opening := c.since start, negated, listStart := c.here }
      let (level, c) ← leadingHyphens start c.rest.length level c
      if level.items.isEmpty && c.char? = some ']' then
        let level := level.push (.literal { stretch := c.charStretch, char := ']' })
        if c.step.atEnd then complain .setUnclosed (c.step.since start)
        else return ({ level with opening := c.step.since start }, c.step)
      else return ({ level with opening := c.since start }, c)

def named? (c : Cursor) : Option (SetTree × Cursor) := do
  let body ← c.pass? "[:"
  let negated := body.char? = some '^'
  let body := if negated then body.next else body
  let name := body.rest.takeWhile (·.1 ≠ ':')
  let rest ← Cursor.pass? { body with rest := body.rest.dropWhile (·.1 ≠ ':') } ":]"
  let ranges ← namedRanges.lookup (String.ofList (name.map (·.1)))
  return (.named (rest.since c.here) negated ranges, rest)

def operation? (c : Cursor) : Option (SetOperation × Cursor) :=
  ((c.pass? "&&").map fun rest => (.intersection, rest)) <|>
  ((c.pass? "--").map fun rest => (.difference, rest)) <|>
  ((c.pass? "~~").map fun rest => (.symmetricDifference, rest))

/-- One end of a range, or a member by itself. -/
def readMember (c : Cursor) : Except Problem (Primitive × Cursor) :=
  match c.char? with
  | some '\\' => Escape.read c
  | some char => .ok (.literal { stretch := c.charStretch, char }, c.next)
  | none => complain .setUnclosed c.point

def memberTree : Primitive → Except Problem SetTree
  | .literal l => .ok (.literal l)
  | .set t => .ok t
  | .assertion stretch _ => complain .setEscape stretch

def rangeEnd : Primitive → Except Problem Literal
  | .literal l => .ok l
  | p => complain .setRangeEnds p.stretch

/-- A member of a list: a range, a character or a set. -/
def readItem (opening : Stretch) (c : Cursor) : Except Problem (SetTree × Cursor) := do
  let (first, c) ← readMember c
  let c := c.gap
  if c.atEnd then complain .setUnclosed opening
  else
    let follower := c.follower?
    if c.char? ≠ some '-' || follower = some ']' || follower = some '-' then
      return (← memberTree first, c)
    else if c.step.atEnd then complain .setUnclosed opening
    else
      let (last, rest) ← readMember c.step
      let low ← rangeEnd first
      let high ← rangeEnd last
      if low.char ≤ high.char then return (.range low high, rest)
      else complain .setRange ⟨low.stretch.start, high.stretch.stop⟩

/-- Read on inside open brackets, the innermost first. Every turn takes a character, so that as
many turns as there are characters are enough. -/
def readLevels : Nat → Level → List Level → Cursor → Except Problem (SetTree × Cursor)
  | 0, level, _, _ => complain .setUnclosed level.opening
  | n + 1, level, outer, c =>
    let c := c.gap
    match c.char? with
    | none => complain .setUnclosed level.opening
    | some '[' =>
      match named? c with
      | some (t, rest) => readLevels n (level.push t) outer rest
      | none => do
        let (inner, rest) ← readOpening c
        readLevels n inner (level :: outer) rest
    | some ']' =>
      let t := .bracket (c.next.since level.start) level.negated level.tree
      match outer with
      | [] => .ok (t, c.next)
      | up :: outer => readLevels n (up.push t) outer c.next
    | some _ =>
      match operation? c with
      | some (operation, rest) => readLevels n (level.operate operation rest.here) outer rest
      | none => do
        let (t, rest) ← readItem level.opening c
        readLevels n (level.push t) outer rest

/-- Read a set in brackets; the cursor stands at the opening bracket. -/
def read (c : Cursor) : Except Problem (SetTree × Cursor) := do
  let (level, rest) ← readOpening c
  readLevels (rest.rest.length + 1) level [] rest

end LineCalculator.Pattern.Bracket
