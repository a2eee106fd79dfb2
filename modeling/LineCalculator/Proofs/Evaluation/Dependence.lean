import LineCalculator.Proofs.Evaluation.Reads

/-!
# What an evaluation depends on

Of the variables only those matter to an evaluation that it reads before it assigns them. Two
evaluations of an expression that find the same in these take the same steps: they have the same
value or fail alike, and what one has assigned by then the other has assigned too, with the same
value.
-/
namespace LineCalculator

namespace StackMachine

/-- The code reads `x` at a place where it has not assigned it yet. -/
def ReadsFirst (code : List Instruction) (x : String) : Prop :=
  ∃ before after, code = before ++ .load x :: after ∧ .store x ∉ before

lemma not_readsFirst_nil (x : String) : ¬ ReadsFirst [] x := by
  rintro ⟨before, after, hcode, -⟩
  simp at hcode

lemma readsFirst_cons_iff {i : Instruction} {code : List Instruction} {x : String} :
    ReadsFirst (i :: code) x ↔ i = .load x ∨ i ≠ .store x ∧ ReadsFirst code x := by
  constructor
  · rintro ⟨before, after, hcode, hstore⟩
    cases before with
    | nil => exact .inl (List.cons.inj hcode).1
    | cons j before =>
      obtain ⟨rfl, rfl⟩ := List.cons.inj hcode
      rw [List.mem_cons, not_or] at hstore
      exact .inr ⟨Ne.symm hstore.1, before, after, rfl, hstore.2⟩
  · rintro (rfl | ⟨hi, before, after, rfl, hstore⟩)
    · exact ⟨[], code, rfl, List.not_mem_nil⟩
    · refine ⟨i :: before, after, rfl, ?_⟩
      rw [List.mem_cons, not_or]
      exact ⟨hi.symm, hstore⟩

section TwoRuns
variable {code : List Instruction} {s t : State} {x : String}

lemma get_run_of_notMem (h : .store x ∉ code) : (run code s).env.get x = s.env.get x := by
  induction code generalizing s with
  | nil => rfl
  | cons i code ih =>
    rw [List.mem_cons, not_or] at h
    cases hi : step s i with
    | error stop => simp [run, hi]
    | ok s' =>
      simp only [run, hi]
      rw [ih h.2]
      rcases env_of_step hi with ⟨y, v, rfl, henv⟩ | ⟨-, henv⟩
      · have hxy : x ≠ y := fun heq => h.1 (by rw [heq])
        rw [henv, Environment.get_set, if_neg hxy]
      · rw [henv]

/-- How two environments `s`, `t` came out of two steps or runs, as `s'` and `t'`: a variable is the
same in both now, or neither has touched it. -/
def SettlesAlike (s t s' t' : Environment) : Prop :=
  ∀ x, s'.get x = t'.get x ∨ s'.get x = s.get x ∧ t'.get x = t.get x

lemma SettlesAlike.refl (s t : Environment) : SettlesAlike s t s t := fun _ => .inr ⟨rfl, rfl⟩

lemma SettlesAlike.trans {s t s' t' s'' t'' : Environment} (h : SettlesAlike s t s' t')
    (h' : SettlesAlike s' t' s'' t'') : SettlesAlike s t s'' t'' := by
  intro x
  rcases h' x with hsame | ⟨hs, ht⟩
  · exact .inl hsame
  · rw [hs, ht]
    exact h x

lemma step_alike (i : Instruction) (hstack : s.stack = t.stack)
    (hread : ∀ x, i = .load x → s.env.get x = t.env.get x) :
    (∃ stop, step s i = .error stop ∧ step t i = .error stop) ∨
      ∃ s' t', step s i = .ok s' ∧ step t i = .ok t' ∧ s'.stack = t'.stack ∧
        SettlesAlike s.env t.env s'.env t'.env ∧
        ∀ x, i = .store x → s'.env.get x = t'.env.get x := by
  cases i with
  | push v => exact .inr ⟨_, _, rfl, rfl, by rw [hstack], .refl _ _, by simp⟩
  | load x =>
    have hx := hread x rfl
    cases hv : s.env.get x with
    | none =>
      rw [hv] at hx
      exact .inl ⟨.fault (.undefinedVariable x), by simp [step, hv], by simp [step, ← hx]⟩
    | some v =>
      rw [hv] at hx
      exact .inr ⟨{ s with stack := v :: s.stack }, { t with stack := v :: t.stack },
        by simp [step, hv], by simp [step, ← hx], by rw [hstack], .refl _ _, by simp⟩
  | operate op =>
    rcases hs : s.stack with _ | ⟨right, _ | ⟨left, stack⟩⟩ <;> rw [hs] at hstack
    · exact .inl ⟨.underflow, by simp [step, hs], by simp [step, ← hstack]⟩
    · exact .inl ⟨.underflow, by simp [step, hs], by simp [step, ← hstack]⟩
    cases hv : operate op left right with
    | error stop =>
      exact .inl ⟨stop, by simp [step, hs, hv, Except.map],
        by simp [step, ← hstack, hv, Except.map]⟩
    | ok v =>
      exact .inr ⟨{ s with stack := v :: stack }, { t with stack := v :: stack },
        by simp [step, hs, hv, Except.map], by simp [step, ← hstack, hv, Except.map], rfl,
        .refl _ _, by simp⟩
  | store x =>
    rcases hs : s.stack with _ | ⟨v, stack⟩ <;> rw [hs] at hstack
    · exact .inl ⟨.underflow, by simp [step, hs], by simp [step, ← hstack]⟩
    refine .inr
      ⟨⟨v :: stack, s.env.set x v, s.assigned ++ [⟨x, v, s.env.get x⟩]⟩,
        ⟨v :: stack, t.env.set x v, t.assigned ++ [⟨x, v, t.env.get x⟩]⟩,
        by simp [step, hs], by simp [step, ← hstack], rfl, fun y => ?_, fun y hy => ?_⟩
    · by_cases hxy : y = x
      · exact .inl (by simp [Environment.get_set, hxy])
      · exact .inr ⟨by simp [Environment.get_set, hxy], by simp [Environment.get_set, hxy]⟩
    · cases hy
      simp [Environment.get_set]

/-- Two machines with the same stack that agree on what the code reads first end alike. -/
theorem run_alike (hstack : s.stack = t.stack)
    (h : ∀ x, ReadsFirst code x → s.env.get x = t.env.get x) :
    (run code s).result = (run code t).result ∧
      SettlesAlike s.env t.env (run code s).env (run code t).env := by
  induction code generalizing s t with
  | nil => exact ⟨by simp [run, hstack], .refl _ _⟩
  | cons i code ih =>
    have hread : ∀ x, i = .load x → s.env.get x = t.env.get x := by
      rintro x rfl
      exact h x (readsFirst_cons_iff.mpr (.inl rfl))
    rcases step_alike i hstack hread with
      ⟨stop, hs, ht⟩ | ⟨s', t', hs, ht, hstack', hsettled, hstored⟩
    · have hrun : run (i :: code) s = ⟨.error stop, s.env, s.assigned⟩ := by simp [run, hs]
      have hrun' : run (i :: code) t = ⟨.error stop, t.env, t.assigned⟩ := by simp [run, ht]
      rw [hrun, hrun']
      exact ⟨rfl, .refl _ _⟩
    · -- What the rest of the code reads first has just been stored, or is read first here too.
      have hrest : ∀ x, ReadsFirst code x → s'.env.get x = t'.env.get x := by
        intro x hx
        by_cases hi : i = .store x
        · exact hstored x hi
        · rcases hsettled x with hsame | ⟨hs', ht'⟩
          · exact hsame
          · rw [hs', ht']
            exact h x (readsFirst_cons_iff.mpr (.inr ⟨hi, hx⟩))
      obtain ⟨hresult, hafter⟩ := ih hstack' hrest
      simp only [run, hs, ht]
      exact ⟨hresult, hsettled.trans hafter⟩

end TwoRuns

/-- Two environments that agree on all that an expression reads before assigning it, whether a
value or none, give it the same value or the same error. Each variable is the same in both then, or
as it was in both, and a variable that the expression never assigns is as it was. -/
theorem evaluate_congr_of_readsFirst (e : Expr) {env env' : Environment}
    (h : ∀ x, ReadsFirst e.code x → env.get x = env'.get x) :
    (e.evaluate env).result = (e.evaluate env').result ∧
    (∀ x, (e.evaluate env).env.get x = (e.evaluate env').env.get x ∨
      (e.evaluate env).env.get x = env.get x ∧ (e.evaluate env').env.get x = env'.get x) ∧
    ∀ x, .store x ∉ e.code →
      (e.evaluate env).env.get x = env.get x ∧ (e.evaluate env').env.get x = env'.get x := by
  obtain ⟨hresult, hsettled⟩ := run_alike (s := start env) (t := start env') rfl h
  rw [env_run_code, env_run_code] at hsettled
  refine ⟨?_, hsettled, fun x hx => ?_⟩
  · cases hr : (e.evaluate env').result with
    | ok v =>
      exact result_run_code_ok_iff.mp (hresult.trans (result_run_code_ok_iff.mpr hr))
    | error err =>
      exact result_run_code_error_iff.mp (hresult.trans (result_run_code_error_iff.mpr hr))
  · rw [← env_run_code e env, ← env_run_code e env']
    exact ⟨get_run_of_notMem hx, get_run_of_notMem hx⟩

/-- `(a = b) / (a - a)` assigns `a` before it reads it, so that an old value of `a` makes no
difference: the division fails either way, and `a` has the new value. -/
theorem evaluate_congr_of_readsFirst_quotient :
    let e : Expr := .binary (.assign "a" (.var "b")) .slash (.binary (.var "a") .minus (.var "a"))
    let env := (∅ : Environment).set "b" 1
    let env' := env.set "a" 7
    (∀ x, ReadsFirst e.code x → env.get x = env'.get x) ∧
      (e.evaluate env).result = (e.evaluate env').result ∧
      (∀ x, (e.evaluate env).env.get x = (e.evaluate env').env.get x ∨
        (e.evaluate env).env.get x = env.get x ∧ (e.evaluate env').env.get x = env'.get x) ∧
      ∀ x, .store x ∉ e.code →
        (e.evaluate env).env.get x = env.get x ∧ (e.evaluate env').env.get x = env'.get x := by
  intro e env env'
  have hreads : ∀ x, ReadsFirst e.code x → env.get x = env'.get x := by
    intro x hx
    obtain rfl : "b" = x := by
      simpa [e, Expr.code, readsFirst_cons_iff, not_readsFirst_nil] using hx
    rw [Environment.get_set env, if_neg (by decide)]
  exact ⟨hreads, evaluate_congr_of_readsFirst e hreads⟩

end StackMachine

end LineCalculator
