import LineCalculator.Token
import LineCalculator.Number.Text
import LineCalculator.Text.Quoted

/-!
# Expressions

An operator node carries a token, not only one of the four operators: what an operator means is
decided when it is evaluated.
-/
namespace LineCalculator

inductive Expr where
  | number (value : Float)
  | binary (left : Expr) (operator : Token) (right : Expr)
  | var (name : String)
  | assign (name : String) (value : Expr)
  deriving DecidableEq

namespace Expr

/-- An expression as log records show it. -/
def text : Expr → String
  | number v => "Number(" ++ String.ofList (NumberStyle.inExpression.text v) ++ ")"
  | binary l op r => "BinaryOp(" ++ l.text ++ ", " ++ op.name ++ ", " ++ r.text ++ ")"
  | var x => "Identifier(" ++ Text.quoteText x ++ ")"
  | assign x e => "Assign(" ++ Text.quoteText x ++ ", " ++ e.text ++ ")"

end Expr

end LineCalculator
