import LineCalculator.Token
import LineCalculator.Text.WhiteSpace

/-!
# Segments of a line

A line is cut from left to right into segments: blanks, tokens, and characters that belong to
neither. A number or a name goes on for as long as it can. The segments are the whole line, see
`flatMap_text_segments`.
-/
namespace LineCalculator

/-- A name begins with a letter or an underscore; letters are those of ASCII. -/
def isNameStart (c : Char) : Bool := c == '_' || c.isAlpha

/-- A name goes on with letters, digits and underscores. -/
def isNameChar (c : Char) : Bool := c == '_' || c.isAlphanum

inductive Segment where
  /-- One white-space character. -/
  | blank (c : Char)
  | token (token : Token) (text : List Char)
  /-- One character that no token begins with. -/
  | unknown (c : Char)
  deriving DecidableEq, Repr

namespace Segment

def text : Segment → List Char
  | blank c => [c]
  | token _ cs => cs
  | unknown c => [c]

/-- What belongs to a number after its first digit, and the rest: digits, then one point with the
digits after it, if there is a point. -/
def numberTail (cs : List Char) : List Char × List Char :=
  match cs.dropWhile Char.isDigit with
  | '.' :: rest =>
    (cs.takeWhile Char.isDigit ++ '.' :: rest.takeWhile Char.isDigit, rest.dropWhile Char.isDigit)
  | rest => (cs.takeWhile Char.isDigit, rest)

/-- The first segment of the text `c :: cs`, and what follows it. -/
def first (c : Char) (cs : List Char) : Segment × List Char :=
  if Text.isWhiteSpace c then (blank c, cs)
  else if c.isDigit then (token .number (c :: (numberTail cs).1), (numberTail cs).2)
  else if isNameStart c then
    (token .identifier (c :: cs.takeWhile isNameChar), cs.dropWhile isNameChar)
  else
    match Token.ofChar? c with
    | some t => (token t [c], cs)
    | none => (unknown c, cs)

theorem numberTail_append (cs : List Char) : (numberTail cs).1 ++ (numberTail cs).2 = cs := by
  unfold numberTail
  split
  · rename_i rest h
    rw [List.append_assoc, List.cons_append, List.takeWhile_append_dropWhile, ← h,
      List.takeWhile_append_dropWhile]
  · exact List.takeWhile_append_dropWhile

/-- Cutting off the first segment loses nothing. -/
theorem first_append (c : Char) (cs : List Char) :
    (first c cs).1.text ++ (first c cs).2 = c :: cs := by
  unfold first
  split
  · rfl
  split
  · simp [text, numberTail_append]
  split
  · simp [text, List.takeWhile_append_dropWhile]
  split <;> rfl

theorem text_first_ne_nil (c : Char) (cs : List Char) : (first c cs).1.text ≠ [] := by
  unfold first
  split
  · simp [text]
  split
  · simp [text]
  split
  · simp [text]
  split <;> simp [text]

/-- Every segment takes a character, so the rest is shorter. -/
theorem length_first_lt (c : Char) (cs : List Char) :
    (first c cs).2.length < (c :: cs).length := by
  have happ := congrArg List.length (first_append c cs)
  have hpos := List.length_pos_iff.2 (text_first_ne_nil c cs)
  rw [List.length_append] at happ
  omega

end Segment

def segments : List Char → List Segment
  | [] => []
  | c :: cs => (Segment.first c cs).1 :: segments (Segment.first c cs).2
termination_by cs => cs.length
decreasing_by exact Segment.length_first_lt c cs

@[simp] theorem segments_nil : segments [] = [] := by rw [segments]

theorem segments_cons (c : Char) (cs : List Char) :
    segments (c :: cs) = (Segment.first c cs).1 :: segments (Segment.first c cs).2 := by
  rw [segments]

/-- The segments of a text, put together, are the text. -/
theorem flatMap_text_segments (cs : List Char) : (segments cs).flatMap Segment.text = cs := by
  fun_induction segments cs with
  | case1 => rfl
  | case2 c cs ih => rw [List.flatMap_cons, ih, Segment.first_append]

end LineCalculator
