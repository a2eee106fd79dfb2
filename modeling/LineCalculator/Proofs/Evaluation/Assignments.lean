import LineCalculator.Evaluation
import Mathlib.Tactic.Common

/-!
# Assignments

The assignments that an evaluation completes are all that it does to the variables. Replaying them
gives the environment after it, whether it has a value or an error, and a variable has the value of
the latest assignment to it.
-/
namespace LineCalculator

namespace Environment

def replay (env : Environment) (assigned : List Assignment) : Environment :=
  assigned.foldl (fun env a => env.set a.name a.value) env

@[simp] lemma replay_nil (env : Environment) : env.replay [] = env := rfl

@[simp] lemma replay_cons (env : Environment) (a : Assignment) (assigned : List Assignment) :
    env.replay (a :: assigned) = (env.set a.name a.value).replay assigned := rfl

@[simp] lemma replay_append (env : Environment) (first next : List Assignment) :
    env.replay (first ++ next) = (env.replay first).replay next := List.foldl_append

end Environment

/-- The latest of some assignments to the variable `x` gave it the value `v`. -/
def Latest (x : String) (v : Float) (assigned : List Assignment) : Prop :=
  ∃ before a after, assigned = before ++ a :: after ∧ a.name = x ∧ a.value = v ∧
    ∀ b ∈ after, b.name ≠ x

lemma not_latest_nil (x : String) (v : Float) : ¬ Latest x v [] := by
  rintro ⟨before, a, after, h, -⟩
  simp at h

lemma latest_cons_iff {x : String} {v : Float} {a : Assignment} {assigned : List Assignment} :
    Latest x v (a :: assigned) ↔
      Latest x v assigned ∨ a.name = x ∧ a.value = v ∧ ∀ b ∈ assigned, b.name ≠ x := by
  constructor
  · rintro ⟨before, b, after, h, hb⟩
    cases before with
    | nil =>
      obtain ⟨rfl, rfl⟩ := List.cons.inj h
      exact .inr hb
    | cons c before =>
      obtain ⟨-, rfl⟩ := List.cons.inj h
      exact .inl ⟨before, b, after, rfl, hb⟩
  · rintro (⟨before, b, after, rfl, hb⟩ | ha)
    · exact ⟨a :: before, b, after, rfl, hb⟩
    · exact ⟨[], a, assigned, rfl, ha⟩

namespace Environment

/-- After assignments a variable has the value of the latest one to it, and the value from before
if there is none. -/
theorem get_replay_iff {env : Environment} {assigned : List Assignment} {x : String} {v : Float} :
    (env.replay assigned).get x = some v ↔
      Latest x v assigned ∨ env.get x = some v ∧ ∀ a ∈ assigned, a.name ≠ x := by
  induction assigned generalizing env with
  | nil => simp [not_latest_nil]
  | cons a assigned ih =>
    rw [replay_cons, ih, latest_cons_iff, get_set, List.forall_mem_cons]
    by_cases hx : x = a.name
    · simp only [hx, if_pos, Option.some.injEq, ne_eq, not_true, false_and, and_false, or_false,
        true_and]
    · simp only [if_neg hx, ne_eq, Ne.symm hx, not_false_eq_true, false_and, or_false, true_and]

lemma isSome_get_replay {env : Environment} {x : String} (h : (env.get x).isSome)
    (assigned : List Assignment) : ((env.replay assigned).get x).isSome := by
  induction assigned generalizing env with
  | nil => exact h
  | cons a assigned ih =>
    refine ih ?_
    rw [get_set]
    split
    · rfl
    · exact h

end Environment

namespace Expr

/-- The names in an expression, in the order of evaluation. -/
def names : Expr → List String
  | number _ => []
  | var x => [x]
  | binary l _ r => l.names ++ r.names
  | assign x e => e.names ++ [x]

def targets : Expr → List String
  | number _ => []
  | var _ => []
  | binary l _ r => l.targets ++ r.targets
  | assign x e => e.targets ++ [x]

lemma targets_subset_names (e : Expr) : e.targets ⊆ e.names := by
  induction e with
  | number v => exact List.nil_subset _
  | var x => exact List.nil_subset _
  | binary l op r ihl ihr =>
    exact List.append_subset.mpr
      ⟨List.subset_append_of_subset_left _ ihl, List.subset_append_of_subset_right _ ihr⟩
  | assign x e ih =>
    exact List.append_subset.mpr
      ⟨List.subset_append_of_subset_left _ ih, List.subset_append_right _ _⟩

end Expr

/-- An evaluation changed `env` by its assignments and in no other way, and these are to names from
a list. -/
structure Evaluation.Replays (e : Evaluation) (env : Environment) (names : List String) : Prop where
  env : e.env = env.replay e.assigned
  names : ∀ a ∈ e.assigned, a.name ∈ names

lemma Evaluation.Replays.andThen {e : Evaluation} {env : Environment} {first next : List String}
    {f : Float → Environment → Evaluation} (h : e.Replays env first)
    (hf : ∀ v, (f v e.env).Replays e.env next) : (e.andThen f).Replays env (first ++ next) := by
  cases hr : e.result with
  | error err =>
    rw [andThen_error hr]
    exact ⟨h.env, fun a ha => List.mem_append_left _ (h.names a ha)⟩
  | ok v =>
    rw [andThen_ok hr]
    refine ⟨?_, fun a ha => ?_⟩
    · rw [(hf v).env, h.env, Environment.replay_append]
    · rcases List.mem_append.mp ha with ha | ha
      · exact List.mem_append_left _ (h.names a ha)
      · exact List.mem_append_right _ ((hf v).names a ha)

theorem Expr.evaluate_replays (e : Expr) (env : Environment) :
    (e.evaluate env).Replays env e.targets := by
  induction e generalizing env with
  | number v => exact ⟨rfl, by simp [evaluate]⟩
  | var x => exact ⟨rfl, by simp [evaluate]⟩
  | binary l op r ihl ihr =>
    refine (ihl env).andThen fun a => ?_
    rw [← List.append_nil r.targets]
    exact (ihr _).andThen fun b => ⟨rfl, by simp⟩
  | assign x e ih => exact (ih env).andThen fun v => ⟨rfl, by simp⟩

end LineCalculator
