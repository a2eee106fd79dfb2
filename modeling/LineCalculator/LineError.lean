import LineCalculator.Evaluation
import LineCalculator.ParseError

/-!
# Why a line has no value
-/
namespace LineCalculator

inductive LineError where
  | parse (error : ParseError)
  | evaluation (error : EvalError)
  deriving DecidableEq, Repr

def LineError.message : LineError → String
  | parse e => e.message
  | evaluation e => e.message

end LineCalculator
