import LineCalculator.Proofs.Evaluation.Assignments

/-!
# Independent expressions

An evaluation sees no more of the variables than those it reads, and changes no more of them than
those it assigns. Two expressions that do not get in each other's way in this sense can be evaluated
in either order. This holds also where one of them fails, after some of its assignments: it fails in
the same way and after the same assignments in both orders.
-/
namespace LineCalculator

namespace Expr

def reads : Expr → List String
  | number _ => []
  | var x => [x]
  | binary l _ r => l.reads ++ r.reads
  | assign _ e => e.reads

/-- No variable that one of two expressions assigns is read or assigned by the other. -/
def Independent (e e' : Expr) : Prop :=
  (∀ x ∈ e.targets, x ∉ e'.reads ∧ x ∉ e'.targets) ∧
    ∀ x ∈ e'.targets, x ∉ e.reads ∧ x ∉ e.targets

instance (e e' : Expr) : Decidable (Independent e e') := inferInstanceAs (Decidable (_ ∧ _))

end Expr

namespace Environment
variable {env env' : Environment} {assigned : List Assignment} {x : String}

lemma replay_eq_foldl (env : Environment) (assigned : List Assignment) :
    env.replay assigned =
      (assigned.map fun a => (a.name, a.value)).foldl (fun env p => env.set p.1 p.2) env := by
  rw [List.foldl_map]
  rfl

lemma get_replay_congr (h : env.get x = env'.get x) (assigned : List Assignment) :
    (env.replay assigned).get x = (env'.replay assigned).get x := by
  induction assigned generalizing env env' with
  | nil => exact h
  | cons a assigned ih =>
    apply ih
    rw [get_set, get_set, h]

lemma get_replay_of_notMem (h : ∀ a ∈ assigned, a.name ≠ x) :
    (env.replay assigned).get x = env.get x := by
  induction assigned generalizing env with
  | nil => rfl
  | cons a assigned ih =>
    obtain ⟨ha, hrest⟩ := List.forall_mem_cons.mp h
    rw [replay_cons, ih hrest, get_set, if_neg ha.symm]

end Environment

namespace Evaluation

/-- Two evaluations came to the same value or the same error, and gave the same values to the same
names on the way. The values that they replaced may differ. -/
structure Alike (e e' : Evaluation) : Prop where
  result : e.result = e'.result
  written : (e.assigned.map fun a => (a.name, a.value)) =
    e'.assigned.map fun a => (a.name, a.value)

namespace Alike
variable {e e' : Evaluation} {env env' : Environment} {f : Float → Environment → Evaluation}

lemma andThen (h : e.Alike e') (hf : ∀ v, (f v e.env).Alike (f v e'.env)) :
    (e.andThen f).Alike (e'.andThen f) := by
  cases hr : e.result with
  | error err =>
    have hr' : e'.result = .error err := h.result.symm.trans hr
    rw [andThen_error hr, andThen_error hr']
    exact h
  | ok v =>
    have hr' : e'.result = .ok v := h.result.symm.trans hr
    rw [andThen_ok hr, andThen_ok hr']
    refine ⟨(hf v).result, ?_⟩
    simp only [List.map_append, h.written, (hf v).written]

lemma get_env {names names' : List String} {x : String} (h : e.Alike e')
    (he : e.Replays env names) (he' : e'.Replays env' names') (hx : env.get x = env'.get x) :
    e.env.get x = e'.env.get x := by
  have hsame : env'.replay e'.assigned = env'.replay e.assigned := by
    rw [Environment.replay_eq_foldl, Environment.replay_eq_foldl, h.written]
  rw [he.env, he'.env, hsame]
  exact Environment.get_replay_congr hx _

end Alike

end Evaluation

namespace Expr
variable {e e' : Expr} {env env' : Environment} {x : String}

theorem evaluate_alike (h : ∀ x ∈ e.reads, env.get x = env'.get x) :
    (e.evaluate env).Alike (e.evaluate env') := by
  induction e generalizing env env' with
  | number v => exact ⟨rfl, rfl⟩
  | var x =>
    have hx : env.get x = env'.get x := h x (List.mem_singleton_self x)
    refine ⟨?_, rfl⟩
    simp only [evaluate, Environment.read, hx]
  | binary l op r ihl ihr =>
    obtain ⟨hl, hr⟩ := List.forall_mem_append.mp h
    -- The left operand assigns the same values in both, so what the right one reads stays the same.
    have hafter : ∀ x ∈ r.reads,
        (l.evaluate env).env.get x = (l.evaluate env').env.get x := fun x hx =>
      (ihl hl).get_env (l.evaluate_replays env) (l.evaluate_replays env') (hr x hx)
    exact (ihl hl).andThen fun a => (ihr hafter).andThen fun b => ⟨rfl, rfl⟩
  | assign x e ih => exact (ih h).andThen fun v => ⟨rfl, rfl⟩

lemma get_evaluate_of_notMem (h : x ∉ e.targets) : (e.evaluate env).env.get x = env.get x := by
  have hreplays := e.evaluate_replays env
  rw [hreplays.env]
  exact Environment.get_replay_of_notMem fun a ha heq => h (heq ▸ hreplays.names a ha)

lemma evaluate_alike_after (h : ∀ x ∈ e'.targets, x ∉ e.reads) :
    (e.evaluate env).Alike (e.evaluate (e'.evaluate env).env) :=
  evaluate_alike fun x hx => (get_evaluate_of_notMem fun hmem => h x hmem hx).symm

lemma get_evaluate_after (h : ∀ x ∈ e'.targets, x ∉ e.reads) (hx : x ∉ e'.targets) :
    (e.evaluate (e'.evaluate env).env).env.get x = (e.evaluate env).env.get x :=
  ((evaluate_alike_after h).get_env (e.evaluate_replays _) (e.evaluate_replays _)
    (get_evaluate_of_notMem hx).symm).symm

/-- Independent expressions have the same values or the same errors in either order, and the same
variables after both. -/
theorem evaluate_comm (h : Independent e e') (env : Environment) :
    (e.evaluate (e'.evaluate env).env).result = (e.evaluate env).result ∧
    (e'.evaluate (e.evaluate env).env).result = (e'.evaluate env).result ∧
    ∀ x, (e'.evaluate (e.evaluate env).env).env.get x =
      (e.evaluate (e'.evaluate env).env).env.get x := by
  have hleft : ∀ x ∈ e.targets, x ∉ e'.reads := fun x hx => (h.1 x hx).1
  have hright : ∀ x ∈ e'.targets, x ∉ e.reads := fun x hx => (h.2 x hx).1
  refine ⟨(evaluate_alike_after hright).result.symm, (evaluate_alike_after hleft).result.symm,
    fun x => ?_⟩
  by_cases hx : x ∈ e.targets
  · have hx' : x ∉ e'.targets := (h.1 x hx).2
    rw [get_evaluate_after hright hx', get_evaluate_of_notMem hx']
  · rw [get_evaluate_after hleft hx, get_evaluate_of_notMem hx]

/-- `(x = a) / (a - a)` divides by zero and `(y = a + 1) * b` lacks `b`, each after an
assignment. -/
theorem evaluate_comm_failures :
    let e : Expr := .binary (.assign "x" (.var "a")) .slash (.binary (.var "a") .minus (.var "a"))
    let e' : Expr :=
      .binary (.assign "y" (.binary (.var "a") .plus (.number 1))) .star (.var "b")
    let env := (∅ : Environment).set "a" 2
    Independent e e' ∧ (e.evaluate (e'.evaluate env).env).result = .error .divisionByZero ∧
      (e'.evaluate (e.evaluate env).env).result = .error (.undefinedVariable "b") ∧
      (e.evaluate (e'.evaluate env).env).env.get "x" = some 2 ∧
      (e'.evaluate (e.evaluate env).env).env.get "x" = some 2 := by
  intro e e' env
  have h : Independent e e' := by decide
  obtain ⟨hresult, hresult', hget⟩ := evaluate_comm h env
  have hx : (e.evaluate (e'.evaluate env).env).env.get "x" = some 2 := by decide +kernel
  refine ⟨h, hresult.trans ?_, hresult'.trans ?_, hx, (hget "x").trans hx⟩
  · decide +kernel
  · decide +kernel

end Expr

end LineCalculator
