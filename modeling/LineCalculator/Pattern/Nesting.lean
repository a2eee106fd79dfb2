import LineCalculator.Pattern.Complaint

/-!
# How deep patterns may be nested

Parts that are composed of others may stand inside each other up to a limit. The first part beyond
it, in the order of the text, is at fault.
-/
namespace LineCalculator.Pattern

/-- How many composed parts may stand inside each other. -/
def nestingLimit : Nat := 250

mutual

/-- The first part that is nested deeper than `room` allows. -/
def SetTree.beyond? (room : Nat) : SetTree → Option Stretch
  | .bracket stretch _ inner =>
    if room = 0 then some stretch else inner.beyond? (room - 1)
  | .union stretch members =>
    if room = 0 then some stretch else SetTree.anyBeyond? (room - 1) members
  | .combine _ left right =>
    if room = 0 then some ⟨left.stretch.start, right.stretch.stop⟩
    else left.beyond? (room - 1) <|> right.beyond? (room - 1)
  | _ => none

def SetTree.anyBeyond? (room : Nat) : List SetTree → Option Stretch
  | [] => none
  | t :: ts => t.beyond? room <|> SetTree.anyBeyond? room ts

end

mutual

/-- The first part that is nested deeper than `room` allows. -/
def Tree.beyond? (room : Nat) : Tree → Option Stretch
  | .set (.bracket stretch negated inner) => SetTree.beyond? room (.bracket stretch negated inner)
  | .many stretch _ body => if room = 0 then some stretch else body.beyond? (room - 1)
  | .group stretch _ _ body => if room = 0 then some stretch else body.beyond? (room - 1)
  | .sequence stretch parts =>
    if room = 0 then some stretch else Tree.anyBeyond? (room - 1) parts
  | .choice stretch branches =>
    if room = 0 then some stretch else Tree.anyBeyond? (room - 1) branches
  | _ => none

def Tree.anyBeyond? (room : Nat) : List Tree → Option Stretch
  | [] => none
  | t :: ts => t.beyond? room <|> Tree.anyBeyond? room ts

end

/-- Refuse a tree that is nested too deep. -/
def Tree.checkNesting (t : Tree) : Except Problem Unit :=
  match t.beyond? nestingLimit with
  | some stretch => complain (.nesting nestingLimit) stretch
  | none => .ok ()

end LineCalculator.Pattern
