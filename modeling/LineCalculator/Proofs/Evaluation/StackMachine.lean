import LineCalculator.Evaluation
import Mathlib.Tactic.Common

/-!
# A stack machine for expressions

Expressions are written out as code for a stack machine, operands before their operator and a value
before its assignment. Running the code and evaluating the expression come to the same: the same
value or the same first error, the same environment and the same completed assignments.
-/
namespace LineCalculator

inductive Instruction where
  | push (value : Float)
  | load (name : String)
  | operate (operator : Token)
  | store (name : String)
  deriving DecidableEq

/-- The code of an expression, children before their node and left before right. -/
def Expr.code : Expr → List Instruction
  | number v => [.push v]
  | var x => [.load x]
  | binary l op r => l.code ++ (r.code ++ [.operate op])
  | assign x e => e.code ++ [.store x]

namespace StackMachine

/-- Why a machine stops before the end of its code. -/
inductive Stop where
  | fault (error : EvalError)
  /-- An instruction lacks an operand. -/
  | underflow
  deriving DecidableEq

structure State where
  stack : List Float
  env : Environment
  assigned : List Assignment

def start (env : Environment) : State := ⟨[], env, []⟩

def operate (operator : Token) (left right : Float) : Except Stop Float :=
  match operator with
  | .plus => .ok (left + right)
  | .minus => .ok (left - right)
  | .star => .ok (left * right)
  | .slash => if right = 0 ∨ right = -0 then .error (.fault .divisionByZero) else .ok (left / right)
  | t => .error (.fault (.unknownOperator t))

/-- One instruction. The right operand is on top of the left one. -/
def step (s : State) : Instruction → Except Stop State
  | .push v => .ok { s with stack := v :: s.stack }
  | .load x =>
    match s.env.get x with
    | some v => .ok { s with stack := v :: s.stack }
    | none => .error (.fault (.undefinedVariable x))
  | .operate op =>
    match s.stack with
    | right :: left :: stack => (operate op left right).map fun v => { s with stack := v :: stack }
    | _ => .error .underflow
  | .store x =>
    match s.stack with
    | v :: _ => .ok { s with env := s.env.set x v, assigned := s.assigned ++ [⟨x, v, s.env.get x⟩] }
    | [] => .error .underflow

/-- What a machine leaves when it stops: its stack at the end of the code or the reason why it did
not get there, and in either case its environment and the stores done. -/
structure Halt where
  result : Except Stop (List Float)
  env : Environment
  assigned : List Assignment

def run : List Instruction → State → Halt
  | [], s => ⟨.ok s.stack, s.env, s.assigned⟩
  | i :: code, s =>
    match step s i with
    | .ok s' => run code s'
    | .error stop => ⟨.error stop, s.env, s.assigned⟩

end StackMachine

namespace Binary64

lemma eq_of_toBits {a b : Float} (h : a.toBits = b.toBits) : a = b := by
  obtain ⟨⟨x, hx⟩⟩ := a
  obtain ⟨⟨y, hy⟩⟩ := b
  obtain rfl : x = y := h
  rfl

lemma isZero_eq_true_iff (v : Float) : isZero v = true ↔ v = 0 ∨ v = -0 := by
  constructor
  · intro h
    have hrank : v.toBits.toNat % 2 ^ 63 = 0 := by simpa [isZero, rank, signBit] using h
    have hlt := v.toBits.toNat_lt
    have hbits : v.toBits.toNat = 0 ∨ v.toBits.toNat = 2 ^ 63 := by omega
    have hplus : (0 : Float).toBits.toNat = 0 := by decide +kernel
    have hminus : (-0 : Float).toBits.toNat = 2 ^ 63 := by decide +kernel
    rcases hbits with hv | hv
    · exact .inl (eq_of_toBits (UInt64.toNat.inj (hv.trans hplus.symm)))
    · exact .inr (eq_of_toBits (UInt64.toNat.inj (hv.trans hminus.symm)))
  · rintro (rfl | rfl)
    · decide +kernel
    · decide +kernel

end Binary64

namespace StackMachine

lemma operate_eq_apply (operator : Token) (left right : Float) :
    operate operator left right = (operator.apply left right).mapError .fault := by
  cases operator with
  | slash =>
    simp only [operate, Token.apply]
    by_cases hz : Binary64.isZero right = true
    · rw [if_pos hz, if_pos ((Binary64.isZero_eq_true_iff right).mp hz)]
      rfl
    · rw [if_neg hz, if_neg fun h => hz ((Binary64.isZero_eq_true_iff right).mpr h)]
      rfl
  | _ => rfl

/-- Go on from an evaluation that started in a state: with its value on top of the stack, or not
at all. -/
def resume (s : State) (e : Evaluation) (code : List Instruction) : Halt :=
  match e.result with
  | .ok v => run code ⟨v :: s.stack, e.env, s.assigned ++ e.assigned⟩
  | .error err => ⟨.error (.fault err), e.env, s.assigned ++ e.assigned⟩

/-- The simulation, for any stack below and any code after the code of an expression. -/
theorem run_code_append (e : Expr) (code : List Instruction) (s : State) :
    run (e.code ++ code) s = resume s (e.evaluate s.env) code := by
  induction e generalizing code s with
  | number v => simp [Expr.code, run, step, Expr.evaluate, resume]
  | var x =>
    cases hx : s.env.get x <;>
      simp [Expr.code, run, step, Expr.evaluate, Environment.read, resume, hx]
  | binary l op r ihl ihr =>
    have hcode : (Expr.binary l op r).code ++ code =
        l.code ++ (r.code ++ (.operate op :: code)) := by simp [Expr.code]
    rw [hcode, ihl]
    cases hl : (l.evaluate s.env).result with
    | error err => simp [resume, hl, Expr.evaluate, Evaluation.andThen_error hl]
    | ok a =>
      -- The left value waits on the stack while the code of the right operand runs.
      simp only [resume, hl, Expr.evaluate, Evaluation.andThen_ok hl, ihr]
      cases hr : (r.evaluate (l.evaluate s.env).env).result with
      | error err => simp [hr, Evaluation.andThen_error hr]
      | ok b =>
        simp only [Evaluation.andThen_ok hr, run, step, operate_eq_apply]
        cases op.apply a b <;> simp [Except.map, Except.mapError]
  | assign x e ih =>
    have hcode : (Expr.assign x e).code ++ code = e.code ++ (.store x :: code) := by
      simp [Expr.code]
    rw [hcode, ih]
    cases hv : (e.evaluate s.env).result with
    | error err => simp [resume, hv, Expr.evaluate, Evaluation.andThen_error hv]
    | ok v => simp [resume, hv, Expr.evaluate, Evaluation.andThen_ok hv, run, step]

lemma exists_of_run_error {code : List Instruction} {s : State} {stop : Stop}
    (h : (run code s).result = .error stop) :
    ∃ before i after s', code = before ++ i :: after ∧
      run before s = ⟨.ok s'.stack, s'.env, s'.assigned⟩ ∧ step s' i = .error stop ∧
      run code s = ⟨.error stop, s'.env, s'.assigned⟩ := by
  induction code generalizing s with
  | nil => simp [run] at h
  | cons i code ih =>
    cases hi : step s i with
    | error stop' =>
      obtain rfl : stop' = stop := by simpa [run, hi] using h
      exact ⟨[], i, code, s, rfl, rfl, hi, by simp [run, hi]⟩
    | ok s₁ =>
      have hrun : run (i :: code) s = run code s₁ := by simp [run, hi]
      rw [hrun] at h
      obtain ⟨before, j, after, s', rfl, hbefore, hstop, hcode⟩ := ih h
      refine ⟨i :: before, j, after, s', rfl, ?_, hstop, hrun.trans hcode⟩
      simpa [run, hi] using hbefore

lemma run_code (e : Expr) (env : Environment) :
    run e.code (start env) = resume (start env) (e.evaluate env) [] := by
  have h := run_code_append e [] (start env)
  rwa [List.append_nil] at h

lemma env_run_code (e : Expr) (env : Environment) :
    (run e.code (start env)).env = (e.evaluate env).env := by
  rw [run_code, resume]
  split <;> rfl

lemma assigned_run_code (e : Expr) (env : Environment) :
    (run e.code (start env)).assigned = (e.evaluate env).assigned := by
  rw [run_code, resume]
  split <;> rfl

lemma result_run_code_error_iff {e : Expr} {env : Environment} {err : EvalError} :
    (run e.code (start env)).result = .error (.fault err) ↔
      (e.evaluate env).result = .error err := by
  rw [run_code, resume]
  cases (e.evaluate env).result <;> simp [run]

lemma result_run_code_ok_iff {e : Expr} {env : Environment} {v : Float} :
    (run e.code (start env)).result = .ok [v] ↔ (e.evaluate env).result = .ok v := by
  rw [run_code, resume]
  cases (e.evaluate env).result <;> simp [run, start]

/-- Evaluating an expression and running its code from an empty stack give the same value or the
same error, the same variables and the same assignments. A failed evaluation leaves what the code
before the failing instruction leaves. -/
theorem evaluate_eq_run (e : Expr) (env : Environment) :
    (∀ v, (e.evaluate env).result = .ok v ↔ (run e.code (start env)).result = .ok [v]) ∧
    (∀ err, (e.evaluate env).result = .error err ↔
      (run e.code (start env)).result = .error (.fault err)) ∧
    (∀ x, (e.evaluate env).env.get x = (run e.code (start env)).env.get x) ∧
    (e.evaluate env).assigned = (run e.code (start env)).assigned ∧
    ∀ err, (e.evaluate env).result = .error err →
      ∃ before i after s, e.code = before ++ i :: after ∧
        run before (start env) = ⟨.ok s.stack, s.env, s.assigned⟩ ∧
        step s i = .error (.fault err) ∧ (∀ x, (e.evaluate env).env.get x = s.env.get x) ∧
        (e.evaluate env).assigned = s.assigned := by
  refine ⟨fun v => ?_, fun err => result_run_code_error_iff.symm, fun x => by rw [env_run_code],
    (assigned_run_code e env).symm, fun err herr => ?_⟩
  · rw [run_code, resume]
    cases (e.evaluate env).result <;> simp [run, start]
  · obtain ⟨before, i, after, s, hcode, hbefore, hstop, hall⟩ :=
      exists_of_run_error (result_run_code_error_iff.mpr herr)
    refine ⟨before, i, after, s, hcode, hbefore, hstop, fun x => ?_, ?_⟩
    · rw [← env_run_code, hall]
    · rw [← assigned_run_code, hall]

-- The store stays although the division after it fails.
example :
    (run (Expr.binary (.assign "x" (.number 5)) .slash (.number 0)).code (start ∅)).env.get "x" =
      some 5 := by decide +kernel

end StackMachine

end LineCalculator
