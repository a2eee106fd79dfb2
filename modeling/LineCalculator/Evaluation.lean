import LineCalculator.Environment
import LineCalculator.Expr

/-!
# Evaluation

An expression is evaluated from left to right in an environment that assignments inside it change.
An evaluation that fails keeps the assignments made before the failure.
-/
namespace LineCalculator

inductive EvalError where
  | undefinedVariable (name : String)
  | divisionByZero
  /-- The token of an operator node is no operator. -/
  | unknownOperator (token : Token)
  deriving DecidableEq, Repr

def EvalError.message : EvalError → String
  | undefinedVariable x => "Undefined variable: `" ++ x ++ "`"
  | divisionByZero => "Division by zero"
  | unknownOperator t => "Unknown operator `" ++ t.text ++ "`"

/-- The meaning of an operator. Division by either zero fails. -/
def Token.apply (operator : Token) (left right : Float) : Except EvalError Float :=
  match operator with
  | .plus => .ok (left + right)
  | .minus => .ok (left - right)
  | .star => .ok (left * right)
  | .slash => if Binary64.isZero right then .error .divisionByZero else .ok (left / right)
  | t => .error (.unknownOperator t)

/-- A completed assignment and the value that it replaced. -/
structure Assignment where
  name : String
  value : Float
  replaced : Option Float
  deriving DecidableEq

/-- What an evaluation leaves: a value or an error, the environment after it, and the assignments
that it completed, in order. -/
structure Evaluation where
  result : Except EvalError Float
  env : Environment
  assigned : List Assignment

namespace Evaluation

/-- Go on with the value and the environment, unless there is an error. -/
def andThen (e : Evaluation) (next : Float → Environment → Evaluation) : Evaluation :=
  match e.result with
  | .error _ => e
  | .ok v =>
    let e' := next v e.env
    ⟨e'.result, e'.env, e.assigned ++ e'.assigned⟩

theorem andThen_error {e : Evaluation} {err : EvalError} (h : e.result = .error err)
    (next : Float → Environment → Evaluation) : e.andThen next = e := by
  simp [andThen, h]

theorem andThen_ok {e : Evaluation} {v : Float} (h : e.result = .ok v)
    (next : Float → Environment → Evaluation) :
    e.andThen next =
      ⟨(next v e.env).result, (next v e.env).env, e.assigned ++ (next v e.env).assigned⟩ := by
  simp [andThen, h]

end Evaluation

def Environment.read (env : Environment) (name : String) : Except EvalError Float :=
  match env.get name with
  | some v => .ok v
  | none => .error (.undefinedVariable name)

/-- Evaluate an expression: the left operand before the right one, a value before its
assignment, and an operator after both operands. -/
def Expr.evaluate : Expr → Environment → Evaluation
  | number v, env => ⟨.ok v, env, []⟩
  | var x, env => ⟨env.read x, env, []⟩
  | binary l op r, env =>
    (l.evaluate env).andThen fun a env =>
      (r.evaluate env).andThen fun b env => ⟨op.apply a b, env, []⟩
  | assign x e, env =>
    (e.evaluate env).andThen fun v env => ⟨.ok v, env.set x v, [⟨x, v, env.get x⟩]⟩

end LineCalculator
