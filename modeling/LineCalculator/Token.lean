/-!
# Tokens

The kinds of item that a line is made of, and the end of input that closes every line.
-/
namespace LineCalculator

inductive Token where
  | number
  | identifier
  | plus
  | minus
  | star
  | slash
  | leftParen
  | rightParen
  | equal
  | endOfInput
  deriving DecidableEq, Repr

namespace Token

def all : List Token :=
  [number, identifier, plus, minus, star, slash, leftParen, rightParen, equal, endOfInput]

theorem mem_all (t : Token) : t ∈ all := by cases t <;> decide

/-- The text for a token in a message to the user. -/
def text : Token → String
  | number => "number"
  | identifier => "identifier"
  | plus => "+"
  | minus => "-"
  | star => "*"
  | slash => "/"
  | leftParen => "("
  | rightParen => ")"
  | equal => "="
  | endOfInput => "end of input"

/-- The name of a token in a log record. -/
def name : Token → String
  | number => "Number"
  | identifier => "Identifier"
  | plus => "Plus"
  | minus => "Minus"
  | star => "Star"
  | slash => "Slash"
  | leftParen => "LeftParen"
  | rightParen => "RightParen"
  | equal => "Equal"
  | endOfInput => "EndOfInput"

/-- The tokens that are a single character. -/
def ofChar? : Char → Option Token
  | '+' => some plus
  | '-' => some minus
  | '*' => some star
  | '/' => some slash
  | '(' => some leftParen
  | ')' => some rightParen
  | '=' => some equal
  | _ => none

/-- A sum is made of terms joined by these. -/
def isAdditive : Token → Bool
  | plus | minus => true
  | _ => false

/-- A term is made of factors joined by these. -/
def isMultiplicative : Token → Bool
  | star | slash => true
  | _ => false

end Token

end LineCalculator
