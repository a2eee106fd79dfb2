import LineCalculator.Span

/-!
# Why items are no expression
-/
namespace LineCalculator

inductive ParseError where
  /-- The text of a number item is no numeral. -/
  | malformedNumber (lexeme : String) (span : Span)
  /-- The number is too large, or too close to zero without being zero. -/
  | numberOutOfRange (lexeme : String) (span : Span)
  /-- No factor begins with the item found. -/
  | unexpected (found : String) (span : Span)
  /-- The item found stands where an open parenthesis should be closed. -/
  | unclosed (opening : Span) (found : String) (span : Span)
  /-- There is no item left. -/
  | outOfItems
  deriving DecidableEq, Repr

namespace ParseError

def message : ParseError → String
  | malformedNumber l s => "Unable to parse `" ++ l ++ "` to number at position " ++ s.text
  | numberOutOfRange l s =>
    "Number literal `" ++ l ++ "` at position " ++ s.text ++ " is out of range"
  | unexpected d s => "Unexpected token: `" ++ d ++ "` at position " ++ s.text
  | unclosed o d s =>
    "Expected closing parenthesis for `(` at position " ++ o.text ++ ", found `" ++ d ++
      "` at position " ++ s.text
  | outOfItems => "Unable to parse the next value because of EOF"

/-- The spans that a message names, in its order. -/
def spans : ParseError → List Span
  | malformedNumber _ s => [s]
  | numberOutOfRange _ s => [s]
  | unexpected _ s => [s]
  | unclosed o _ s => [o, s]
  | outOfItems => []

/-- The first byte of the item at fault. -/
def start? (e : ParseError) : Option Nat := e.spans.getLast?.map Span.start

end ParseError

end LineCalculator
