import LineCalculator.Session.Interactive
import LineCalculator.Session.Reader
import Mathlib.Tactic.Common

/-!
# Properties that operations have part by part

The operations of a session are put together from a few: records, diagnostics, evaluations, and
lines that are printed. A property that these have, and that passes from two operations to one after
the other, is a property of every operation.
-/
namespace LineCalculator

/-- A property that an operation has if its parts have it, and that the parts have which do not
print. -/
structure Compositional (P : ∀ α : Type, Action α → Prop) : Prop where
  pure {α : Type} (value : α) : P α (Pure.pure value)
  bind {α β : Type} {x : Action α} {f : α → Action β} :
    P α x → (∀ a, P β (f a)) → P β (x >>= f)
  emit {events : List Event} : (∀ e ∈ events, ∃ r, e = .logged r) → P Unit (Session.emit events)
  report (d : Diagnostic) : P Unit (Session.report d)
  evaluate (e : Expr) : P (Except EvalError Float) (Session.evaluate e)

namespace Compositional
variable {P : ∀ α : Type, Action α → Prop} (h : Compositional P)
include h

lemma map {α β : Type} {x : Action α} (hx : P α x) (g : α → β) : P β (g <$> x) := by
  rw [← bind_pure_comp]
  exact h.bind hx fun a => h.pure (g a)

lemma log (r : Record) : P Unit (Session.log r) := h.emit (by simp)

lemma reportAll (ds : List Diagnostic) : P Unit (Session.reportAll ds) := by
  induction ds with
  | nil => exact h.pure ()
  | cons d ds ih => exact h.bind (h.report d) fun _ => ih

theorem tryLine (line : String) : P (Except LineError Float) (Session.tryLine line) := by
  unfold Session.tryLine
  refine h.bind (h.emit (by simp)) fun _ => h.bind (h.reportAll _) fun _ =>
    h.bind (h.emit (by simp)) fun _ => ?_
  cases parse (scan line).items with
  | error e => exact h.bind (h.log _) fun _ => h.pure _
  | ok p =>
    have hevents : ∀ e ∈ Session.parsedEvents p, ∃ r, e = .logged r := by
      cases hi : p.ignored <;> simp [Session.parsedEvents, hi]
    refine h.bind (h.emit hevents) fun _ => h.bind (h.evaluate p.expr) fun result => ?_
    cases result with
    | error e => exact h.pure _
    | ok v => exact h.bind (h.log _) fun _ => h.pure _

theorem valueOrZero (line : String) : P Float (Session.valueOrZero line) := by
  refine h.bind (h.tryLine line) fun result => ?_
  cases result with
  | ok v => exact h.pure v
  | error e => exact h.bind (h.log _) fun _ => h.bind (h.report _) fun _ => h.pure _

section Printing
variable (hprint : ∀ line : String, P (Except Fault Unit) (Session.printText line))
include hprint

theorem respond (line : String) : P (Except Fault Flow) (Session.respond line) := by
  unfold Session.respond
  split
  · exact h.pure _
  · refine h.bind (h.valueOrZero line) fun v => h.bind (hprint _) fun result => ?_
    cases result with
    | error fault => exact h.pure _
    | ok _ => exact h.pure _

theorem runLines (n : Nat) (lines : List (Except Fault String)) :
    P (Except Fault Summary) (Session.runLines n lines) := by
  induction lines generalizing n with
  | nil => exact h.pure _
  | cons head rest ih =>
    cases head with
    | error fault => exact h.bind (h.report _) fun _ => h.pure _
    | ok line =>
      rw [Session.runLines]
      split
      · exact h.map (ih (n + 1)) _
      · refine h.bind (h.tryLine line) fun result => ?_
        cases result with
        | ok v =>
          refine h.bind (hprint _) fun printed => ?_
          cases printed with
          | error fault => exact h.pure _
          | ok _ => exact h.map (ih (n + 1)) _
        | error e =>
          exact h.bind (h.log _) fun _ => h.bind (h.report _) fun _ => h.map (ih (n + 1)) _

theorem runPath (path : String) (opened : Except Fault Input) :
    P (Except Fault (Option Summary)) (Session.runPath path opened) := by
  refine h.bind (h.log _) fun _ => ?_
  cases opened with
  | error fault => exact h.bind (h.log _) fun _ => h.bind (h.report _) fun _ => h.pure _
  | ok input =>
    refine h.bind (h.runLines hprint 1 input.lines) fun result => ?_
    cases result with
    | error fault => exact h.pure _
    | ok summary => exact h.bind (h.log _) fun _ => h.pure _

end Printing

end Compositional

end LineCalculator
