import LineCalculator.Span
import LineCalculator.Token

/-!
# Items

An item is a token with its text and its place in the line.
-/
namespace LineCalculator

structure Item where
  token : Token
  lexeme : String
  span : Span
  deriving DecidableEq, Repr

namespace Item

/-- What a message calls an item: its text, or the name of its token when it has no text. -/
def label (i : Item) : String := if i.lexeme.isEmpty then i.token.text else i.lexeme

def closing (line : String) : Item := ⟨.endOfInput, "", Span.past line⟩

@[simp] theorem closing_token (line : String) : (closing line).token = .endOfInput := rfl
@[simp] theorem closing_lexeme (line : String) : (closing line).lexeme = "" := rfl

end Item

end LineCalculator
