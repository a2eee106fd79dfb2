import LineCalculator.Pattern.Complaint
import LineCalculator.Text.WhiteSpace

/-!
# Going through a written pattern

A cursor holds the characters still to be read, each with its place.
-/
namespace LineCalculator.Pattern

abbrev PlacedChar := Char × Place

def Place.after (p : Place) (c : Char) : Place :=
  if c = '\n' then ⟨p.line + 1, 1⟩ else ⟨p.line, p.column + 1⟩

structure Cursor where
  rest : List PlacedChar
  /-- The place after the last character. -/
  finish : Place
  /-- Whether blanks and comments mean nothing. -/
  spaced : Bool := false

namespace Cursor

/-- Put places to characters, and find the place after the last. -/
def placed (p : Place) : List Char → List PlacedChar × Place
  | [] => ([], p)
  | c :: cs =>
    let (rest, finish) := placed (p.after c) cs
    ((c, p) :: rest, finish)

def ofString (s : String) : Cursor :=
  let (rest, finish) := placed ⟨1, 1⟩ s.toList
  { rest, finish }

def char? (c : Cursor) : Option Char := c.rest.head?.map (·.1)

def atEnd (c : Cursor) : Bool := c.rest.isEmpty

def here (c : Cursor) : Place :=
  match c.rest with
  | [] => c.finish
  | (_, p) :: _ => p

def next (c : Cursor) : Cursor := { c with rest := c.rest.tail }

/-- Drop blanks and comments, possibly from the middle of a comment. -/
def dropSpace (comment : Bool) : List PlacedChar → List PlacedChar
  | [] => []
  | (c, p) :: rest =>
    if comment then dropSpace (c ≠ '\n') rest
    else if c = '#' then dropSpace true rest
    else if Text.isWhiteSpace c then dropSpace false rest
    else (c, p) :: rest

def gap (c : Cursor) : Cursor :=
  if c.spaced then { c with rest := dropSpace false c.rest } else c

/-- Pass one character and what means nothing after it. -/
def step (c : Cursor) : Cursor := c.next.gap

/-- The character after the one at the cursor. Where blanks mean nothing they are passed over, and
so is the sign of a comment, but the comment itself is not. -/
def follower? (c : Cursor) : Option Char :=
  let after := c.next.rest.map (·.1)
  if !c.spaced then after.head?
  else
    match after.dropWhile Text.isWhiteSpace with
    | '#' :: comment => (comment.dropWhile Text.isWhiteSpace).head? <|> after.head?
    | found => found.head? <|> after.head?

/-- The empty stretch at the cursor. -/
def point (c : Cursor) : Stretch := ⟨c.here, c.here⟩

def charStretch (c : Cursor) : Stretch := ⟨c.here, c.next.here⟩

def since (c : Cursor) (start : Place) : Stretch := ⟨start, c.here⟩

def pass? (c : Cursor) (text : String) : Option Cursor :=
  let cs := text.toList
  if (c.rest.take cs.length).map (·.1) = cs then some { c with rest := c.rest.drop cs.length }
  else none

theorem length_dropSpace_le (comment : Bool) (l : List PlacedChar) :
    (dropSpace comment l).length ≤ l.length := by
  induction l generalizing comment with
  | nil => exact Nat.le_refl 0
  | cons a l ih =>
    unfold dropSpace
    rw [List.length_cons]
    split
    · exact Nat.le_succ_of_le (ih _)
    · split
      · exact Nat.le_succ_of_le (ih _)
      · split
        · exact Nat.le_succ_of_le (ih _)
        · exact Nat.le_refl _

theorem length_next_lt {c : Cursor} (h : c.rest ≠ []) : c.next.rest.length < c.rest.length := by
  have := List.length_pos_iff.2 h
  simp only [next, List.length_tail]
  omega

theorem length_step_lt {c : Cursor} (h : c.rest ≠ []) : c.step.rest.length < c.rest.length := by
  have hg : c.step.rest.length ≤ c.next.rest.length := by
    unfold step gap
    split
    · exact length_dropSpace_le false _
    · exact Nat.le_refl _
  exact Nat.lt_of_le_of_lt hg (length_next_lt h)

def collect (kind : Char → Bool) (c : Cursor) : List Char × Cursor :=
  if h : c.rest = [] then ([], c)
  else
    let ch := (c.rest.head h).1
    if kind ch then
      let (chs, rest) := collect kind c.step
      (ch :: chs, rest)
    else ([], c)
termination_by c.rest.length
decreasing_by exact length_step_lt h

end Cursor

end LineCalculator.Pattern
