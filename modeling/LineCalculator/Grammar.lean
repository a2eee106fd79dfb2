import LineCalculator.Expr
import LineCalculator.Item
import LineCalculator.ParseError
import LineCalculator.Number.Numeral

/-!
# Reading expressions from items

A sum is a chain of terms, a term a chain of factors, and both chains fold to the left. A factor is
a number, a variable, an assignment whose value is a whole sum, or a sum in parentheses. `read`
takes the longest phrase from the front of the items and leaves the rest; a reading carries the
proof that it took something, which is also why reading ends.
-/
namespace LineCalculator

def Item.number (i : Item) : Except ParseError Float :=
  match Numeral.read? i.lexeme with
  | none => .error (.malformedNumber i.lexeme i.span)
  | some n =>
    let v := n.toFloat
    let vanished := Binary64.isZero v && i.lexeme.toList.any fun c => '1' ≤ c && c ≤ '9'
    if Binary64.isFinite v && !vanished then .ok v
    else .error (.numberOutOfRange i.lexeme i.span)

namespace Grammar

/-- The two kinds of chain. -/
inductive Level where
  | sum
  | term
  deriving DecidableEq, Repr

def Level.joins : Level → Token → Bool
  | sum => Token.isAdditive
  | term => Token.isMultiplicative

/-- What there is to read. -/
inductive Phrase where
  | factor
  | chain (level : Level)
  /-- The rest of a chain after the links read so far. -/
  | more (level : Level) (left : Expr)

namespace Phrase

def link : Level → Phrase
  | .sum => chain .term
  | .term => factor

/-- How many items a phrase takes at the least. -/
def least : Phrase → Nat
  | factor => 1
  | chain _ => 1
  | more _ _ => 0

/-- Phrases that begin with one another without taking an item, in order. -/
def depth : Phrase → Nat
  | factor => 0
  | chain .term => 1
  | chain .sum => 2
  | more _ _ => 0

@[simp] theorem least_link (l : Level) : (link l).least = 1 := by cases l <;> rfl

theorem depth_link_lt (l : Level) : (link l).depth < (chain l).depth := by cases l <;> decide

end Phrase

/-- A phrase read from the front of `items`: its expression, and the items after it. -/
structure Reading (phrase : Phrase) (items : List Item) where
  expr : Expr
  rest : List Item
  progress : rest.length + phrase.least ≤ items.length

theorem Reading.rest_lt {l : Level} {items : List Item} (r : Reading (.link l) items) :
    r.rest.length < items.length := by
  have h := r.progress
  rw [Phrase.least_link] at h
  exact h

/-- Why a phrase could not be read, and the items not stepped over when that was found. -/
structure Refusal where
  error : ParseError
  unread : List Item
  deriving DecidableEq, Repr

/-- Read the longest such phrase from the front of the items. -/
def read (phrase : Phrase) (items : List Item) : Except Refusal (Reading phrase items) :=
  match phrase, items with
  | .factor, [] => .error ⟨.outOfItems, []⟩
  | .factor, item :: rest =>
    match item.token with
    | .number =>
      match item.number with
      | .ok v => .ok ⟨.number v, rest, Nat.le_refl _⟩
      | .error e => .error ⟨e, rest⟩
    | .identifier =>
      match rest with
      | [] => .ok ⟨.var item.lexeme, [], Nat.le_refl _⟩
      | next :: after =>
        if next.token = .equal then
          match read (.chain .sum) after with
          | .error refusal => .error refusal
          | .ok value => .ok ⟨.assign item.lexeme value.expr, value.rest,
              Nat.le_add_right_of_le (Nat.le_add_right_of_le value.progress)⟩
        else .ok ⟨.var item.lexeme, next :: after, Nat.le_refl _⟩
    | .leftParen =>
      match read (.chain .sum) rest with
      | .error refusal => .error refusal
      | .ok ⟨_, [], _⟩ => .error ⟨.outOfItems, []⟩
      | .ok ⟨inner, close :: after, h⟩ =>
        if close.token = .rightParen then
          .ok ⟨inner, after, Nat.le_add_right_of_le (Nat.le_of_succ_le h)⟩
        else .error ⟨.unclosed item.span close.label close.span, close :: after⟩
    | _ => .error ⟨.unexpected item.label item.span, item :: rest⟩
  | .chain level, items =>
    match read (.link level) items with
    | .error refusal => .error refusal
    | .ok first =>
      match read (.more level first.expr) first.rest with
      | .error refusal => .error refusal
      | .ok whole => .ok ⟨whole.expr, whole.rest,
          Nat.lt_of_le_of_lt whole.progress first.rest_lt⟩
  | .more _ left, [] => .ok ⟨left, [], Nat.le_refl _⟩
  | .more level left, op :: rest =>
    if level.joins op.token then
      match read (.link level) rest with
      | .error refusal => .error refusal
      | .ok right =>
        match read (.more level (.binary left op.token right.expr)) right.rest with
        | .error refusal => .error refusal
        | .ok whole => .ok ⟨whole.expr, whole.rest, Nat.le_add_right_of_le
            (Nat.le_of_lt (Nat.lt_of_le_of_lt whole.progress right.rest_lt))⟩
    else .ok ⟨left, op :: rest, Nat.le_refl _⟩
termination_by (items.length, phrase.depth)
decreasing_by
  · exact Prod.Lex.left _ _ (Nat.lt_add_right 1 (Nat.lt_succ_self _))
  · exact Prod.Lex.left _ _ (Nat.lt_succ_self _)
  · exact Prod.Lex.right _ (Phrase.depth_link_lt level)
  · exact Prod.Lex.left _ _ first.rest_lt
  · exact Prod.Lex.left _ _ (Nat.lt_succ_self _)
  · exact Prod.Lex.left _ _ (Nat.lt_add_right 1 right.rest_lt)

end Grammar

/-- An expression read from the front of a list of items, and the items after it. -/
structure Parsed where
  expr : Expr
  rest : List Item

/-- The items after the expression that nothing reads. The end of input is not counted. -/
def Parsed.ignored (p : Parsed) : List Item :=
  match p.rest.getLast? with
  | some last => if last.token = .endOfInput then p.rest.dropLast else p.rest
  | none => []

/-- Read one expression from the front of `items`. -/
def parse (items : List Item) : Except ParseError Parsed :=
  match Grammar.read (.chain .sum) items with
  | .ok reading => .ok ⟨reading.expr, reading.rest⟩
  | .error refusal => .error refusal.error

end LineCalculator
