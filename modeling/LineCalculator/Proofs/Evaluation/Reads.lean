import LineCalculator.Proofs.Evaluation.StackMachine
import Mathlib.Data.List.Induction
import Mathlib.Tactic.Common

/-!
# Reads of variables

Code reads its variables in the order of evaluation. A read finds a value if the variable had one
from the start or has been assigned by then, and nothing else about the values matters: this is
decided by the code alone. So an expression whose reads are all of this kind never fails for want
of a variable, and any other fails at its first read that is not, or at an operator before it.
-/
namespace LineCalculator

namespace StackMachine

/-- A read of `x` after the instructions `before` finds a value: `x` has one at the start, or is
assigned among them. -/
def SafeRead (env : Environment) (before : List Instruction) (x : String) : Prop :=
  (env.get x).isSome ∨ .store x ∈ before

/-- All reads of the code find a value. -/
def DefinitelyAssigned (env : Environment) (code : List Instruction) : Prop :=
  ∀ before x after, code = before ++ .load x :: after → SafeRead env before x

/-- The read of `x` after the instructions `before` is the first one of the code that finds no
value. -/
structure FirstUndefined (env : Environment) (code before : List Instruction) (x : String) :
    Prop where
  reads : ∃ after, code = before ++ .load x :: after
  undefined : ¬ SafeRead env before x
  earlier : DefinitelyAssigned env before

/-- The instructions `before` run to their end, and the operator after them fails on the operands
that they leave. -/
def OperatorFails (env : Environment) (before : List Instruction) (op : Token) (err : EvalError) :
    Prop :=
  ∃ s, run before (start env) = ⟨.ok s.stack, s.env, s.assigned⟩ ∧
    step s (.operate op) = .error (.fault err)

section Step
variable {s s' : State} {i : Instruction} {err : EvalError}

lemma env_of_step (h : step s i = .ok s') :
    (∃ x v, i = .store x ∧ s'.env = s.env.set x v) ∨ (∀ x, i ≠ .store x) ∧ s'.env = s.env := by
  cases i with
  | push v =>
    cases h
    exact .inr ⟨by simp, rfl⟩
  | load x =>
    simp only [step] at h
    split at h
    · cases h
      exact .inr ⟨by simp, rfl⟩
    · cases h
  | operate op =>
    simp only [step] at h
    split at h
    · rename_i right left stack hs
      cases hv : operate op left right with
      | error stop => simp [hv, Except.map] at h
      | ok v =>
        rw [hv] at h
        cases h
        exact .inr ⟨by simp, rfl⟩
    · cases h
  | store x =>
    simp only [step] at h
    split at h
    · cases h
      exact .inl ⟨x, _, rfl, rfl⟩
    · cases h

lemma isSome_get_of_step (h : step s i = .ok s') (x : String) :
    (s'.env.get x).isSome ↔ (s.env.get x).isSome ∨ i = .store x := by
  rcases env_of_step h with ⟨y, v, rfl, henv⟩ | ⟨hi, henv⟩
  · rw [henv, Environment.get_set, Instruction.store.injEq]
    split_ifs with hxy
    · simp [hxy]
    · simp [Ne.symm hxy]
  · simp [henv, hi x]

lemma cases_of_step_fault (h : step s i = .error (.fault err)) :
    (∃ x, i = .load x ∧ s.env.get x = none ∧ err = .undefinedVariable x) ∨
      ∃ op, i = .operate op ∧ (err = .divisionByZero ∨ err = .unknownOperator op) := by
  cases i with
  | push v => cases h
  | load x =>
    simp only [step] at h
    split at h
    · cases h
    · rename_i hnone
      cases h
      exact .inl ⟨x, rfl, hnone, rfl⟩
  | operate op =>
    refine .inr ⟨op, rfl, ?_⟩
    simp only [step] at h
    split at h
    · rename_i right left stack hs
      cases hv : operate op left right with
      | ok v => simp [hv, Except.map] at h
      | error stop =>
        rw [hv] at h
        cases h
        cases op with
        | slash =>
          simp only [operate] at hv
          split at hv
          · cases hv
            exact .inl rfl
          · cases hv
        | plus | minus | star => cases hv
        | _ =>
          cases hv
          exact .inr rfl
    · cases h
  | store x =>
    simp only [step] at h
    split at h <;> cases h

end Step

section Run
variable {env : Environment} {code before : List Instruction} {s s' : State} {x : String}

lemma exists_of_run_append {next : List Instruction} {stack : List Float}
    (h : (run (before ++ next) s).result = .ok stack) :
    ∃ s', run before s = ⟨.ok s'.stack, s'.env, s'.assigned⟩ ∧
      run next s' = run (before ++ next) s := by
  induction before generalizing s with
  | nil => exact ⟨s, rfl, rfl⟩
  | cons i before ih =>
    cases hi : step s i with
    | error stop => simp [run, hi] at h
    | ok s₁ =>
      have hrun : ∀ code, run (i :: code) s = run code s₁ := fun code => by simp [run, hi]
      rw [List.cons_append, hrun] at h
      obtain ⟨s', hbefore, hnext⟩ := ih h
      exact ⟨s', (hrun before).trans hbefore, hnext.trans (hrun _).symm⟩

lemma isSome_get_of_run (h : run before s = ⟨.ok s'.stack, s'.env, s'.assigned⟩) (x : String) :
    (s'.env.get x).isSome ↔ (s.env.get x).isSome ∨ .store x ∈ before := by
  induction before generalizing s with
  | nil =>
    obtain ⟨-, henv, -⟩ := Halt.mk.inj h
    simp [henv]
  | cons i before ih =>
    cases hi : step s i with
    | error stop => simp [run, hi] at h
    | ok s₁ =>
      simp only [run, hi] at h
      rw [ih h, isSome_get_of_step hi, List.mem_cons, or_assoc, eq_comm (a := i)]

lemma safeRead_iff (h : run before (start env) = ⟨.ok s.stack, s.env, s.assigned⟩) :
    SafeRead env before x ↔ (s.env.get x).isSome := (isSome_get_of_run h x).symm

theorem definitelyAssigned_of_run {stack : List Float}
    (h : (run code (start env)).result = .ok stack) : DefinitelyAssigned env code := by
  rintro before x after rfl
  obtain ⟨s, hbefore, hnext⟩ := exists_of_run_append h
  rw [safeRead_iff hbefore]
  rw [← hnext] at h
  cases hx : s.env.get x with
  | some v => rfl
  | none => simp [run, step, hx] at h

lemma cases_of_run_fault {err : EvalError}
    (h : (run code (start env)).result = .error (.fault err)) :
    (∃ before x, FirstUndefined env code before x ∧ err = .undefinedVariable x) ∨
      ∃ before op after, code = before ++ .operate op :: after ∧ DefinitelyAssigned env before ∧
        OperatorFails env before op err ∧ (err = .divisionByZero ∨ err = .unknownOperator op) := by
  obtain ⟨before, i, after, s, hcode, hbefore, hstop, -⟩ := exists_of_run_error h
  have hend : (run before (start env)).result = .ok s.stack := by rw [hbefore]
  have hearlier := definitelyAssigned_of_run hend
  rcases cases_of_step_fault hstop with ⟨x, rfl, hnone, rfl⟩ | ⟨op, rfl, herr⟩
  · refine .inl ⟨before, x, ⟨⟨after, hcode⟩, ?_, hearlier⟩, rfl⟩
    rw [safeRead_iff hbefore, hnone]
    exact Bool.false_ne_true
  · exact .inr ⟨before, op, after, hcode, hearlier, ⟨s, hbefore, hstop⟩, herr⟩

end Run

section First
variable {env : Environment} {code before before' after after' : List Instruction} {x : String}
  {i j : Instruction}

lemma places_trichotomy (h : before ++ i :: after = before' ++ j :: after') :
    (∃ between, before' = before ++ i :: between) ∨ (before = before' ∧ i = j) ∨
      ∃ between, before = before' ++ j :: between := by
  rcases List.append_eq_append_iff.mp h with ⟨mid, hbefore, hafter⟩ | ⟨mid, hbefore, hafter⟩
  · cases mid with
    | nil =>
      obtain ⟨rfl, -⟩ := List.cons.inj hafter
      exact .inr (.inl ⟨by simpa using hbefore.symm, rfl⟩)
    | cons k mid =>
      obtain ⟨rfl, -⟩ := List.cons.inj hafter
      exact .inl ⟨mid, hbefore⟩
  · cases mid with
    | nil =>
      obtain ⟨rfl, -⟩ := List.cons.inj hafter
      exact .inr (.inl ⟨by simpa using hbefore, rfl⟩)
    | cons k mid =>
      obtain ⟨rfl, -⟩ := List.cons.inj hafter
      exact .inr (.inr ⟨mid, hbefore⟩)

lemma FirstUndefined.not_definitelyAssigned (h : FirstUndefined env code before x) :
    ¬ DefinitelyAssigned env code := by
  obtain ⟨after, hcode⟩ := h.reads
  exact fun hall => h.undefined (hall before x after hcode)

lemma definitelyAssigned_concat (h : DefinitelyAssigned env code)
    (hi : ∀ x, i = .load x → SafeRead env code x) : DefinitelyAssigned env (code ++ [i]) := by
  intro before x after heq
  rcases places_trichotomy heq with ⟨between, rfl⟩ | ⟨rfl, rfl⟩ | ⟨between, rfl⟩
  · simp at heq
  · exact hi x rfl
  · exact h before x between rfl

lemma exists_firstUndefined (h : ¬ DefinitelyAssigned env code) :
    ∃ before x, FirstUndefined env code before x := by
  induction code using List.reverseRecOn with
  | nil => exact absurd (fun before x after heq => by simp at heq) h
  | append_singleton code i ih =>
    by_cases hcode : DefinitelyAssigned env code
    · by_cases hi : ∀ x, i = .load x → SafeRead env code x
      · exact absurd (definitelyAssigned_concat hcode hi) h
      · push Not at hi
        obtain ⟨x, rfl, hx⟩ := hi
        exact ⟨code, x, ⟨[], rfl⟩, hx, hcode⟩
    · obtain ⟨before, x, ⟨after, rfl⟩, hx, hearlier⟩ := ih hcode
      exact ⟨before, x, ⟨after ++ [i], by simp⟩, hx, hearlier⟩

lemma FirstUndefined.name_unique {y : String} (h : FirstUndefined env code before x)
    (h' : FirstUndefined env code before' y) : x = y := by
  obtain ⟨after, rfl⟩ := h.reads
  obtain ⟨after', heq⟩ := h'.reads
  rcases places_trichotomy heq with ⟨between, rfl⟩ | ⟨-, hload⟩ | ⟨between, rfl⟩
  · exact absurd (h'.earlier before x between rfl) h.undefined
  · exact Instruction.load.inj hload
  · exact absurd (h.earlier before' y between rfl) h'.undefined

lemma FirstUndefined.exists_between {op : Token} (h : FirstUndefined env code before x)
    (hcode : code = before' ++ .operate op :: after') (hearlier : DefinitelyAssigned env before') :
    ∃ between, before = before' ++ .operate op :: between := by
  obtain ⟨after, rfl⟩ := h.reads
  rcases places_trichotomy hcode with ⟨between, rfl⟩ | ⟨-, hload⟩ | hbetween
  · exact absurd (hearlier before x between rfl) h.undefined
  · cases hload
  · exact hbetween

end First

/-- If all reads of an expression find a value, its evaluation does not fail for want of one,
whatever the values. If not, it fails: with the name of the first read that finds none, or at an
operator before that read. -/
theorem evaluate_definitelyAssigned (e : Expr) (env : Environment) :
    (DefinitelyAssigned env e.code →
      ∀ x, (e.evaluate env).result ≠ .error (.undefinedVariable x)) ∧
    (¬ DefinitelyAssigned env e.code → ∃ before x, FirstUndefined env e.code before x ∧
      ((e.evaluate env).result = .error (.undefinedVariable x) ∨
        ∃ earlier op between err, before = earlier ++ .operate op :: between ∧
          OperatorFails env earlier op err ∧
          (err = .divisionByZero ∨ err = .unknownOperator op) ∧
          (e.evaluate env).result = .error err)) := by
  constructor
  · intro hall x herr
    rcases cases_of_run_fault (result_run_code_error_iff.mpr herr) with
      ⟨before, y, hfirst, -⟩ | ⟨before, op, after, -, -, -, hop⟩
    · exact hfirst.not_definitelyAssigned hall
    · simp at hop
  · intro hnot
    obtain ⟨before, x, hfirst⟩ := exists_firstUndefined hnot
    refine ⟨before, x, hfirst, ?_⟩
    cases hr : (e.evaluate env).result with
    | ok v =>
      exact absurd (definitelyAssigned_of_run (result_run_code_ok_iff.mpr hr)) hnot
    | error err =>
      rcases cases_of_run_fault (result_run_code_error_iff.mpr hr) with
        ⟨before', y, hfirst', rfl⟩ | ⟨earlier, op, after, hcode, hearlier, hfails, hop⟩
      · rw [hfirst.name_unique hfirst']
        exact .inl rfl
      · obtain ⟨between, hbetween⟩ := hfirst.exists_between hcode hearlier
        exact .inr ⟨earlier, op, between, err, hbetween, hfails, hop, rfl⟩

-- The right operand gives `a` its value too late for the left one.
example : (Expr.binary (.var "a") .plus (.assign "a" (.number 2))).evaluate ∅ =
    ⟨.error (.undefinedVariable "a"), ∅, []⟩ := rfl

end StackMachine

end LineCalculator
