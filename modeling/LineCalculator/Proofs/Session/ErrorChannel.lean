import LineCalculator.Proofs.Session.Composition
import LineCalculator.Proofs.Session.Reports
import LineCalculator.Proofs.Session.Variables
import Mathlib.Data.List.Forall2

/-!
# The error channel is only written to

What the error channel takes of a diagnostic is recorded and never read again. So two sessions that
differ in their error channels go through any operations side by side: the same answers, the same
variables, the same lines printed, and the same records but for those of diagnostics that did not
arrive.
-/
namespace LineCalculator

/-- What there is of an event whatever the error channel takes: of a diagnostic that it was offered,
and nothing of the record that it did not arrive. -/
def Event.regardless? : Event → Option Event
  | logged (.reportFailed _) => none
  | reported d _ => some (reported d 0)
  | e => some e

def Record.isReportFailed : Record → Bool
  | reportFailed _ => true
  | _ => false

/-- Two sessions that differ in their error channels at most. -/
structure Session.Alike (s t : Session) : Prop where
  env : s.env = t.env
  print : s.print = t.print

namespace Step
variable {α : Type}

def records (t : Step α) : List Record := t.events.filterMap Event.record?

/-- Two steps that differ in what the error channel took at most. -/
structure Alike (t u : Step α) : Prop where
  value : t.value = u.value
  session : t.session.Alike u.session
  events : t.events.filterMap Event.regardless? = u.events.filterMap Event.regardless?

section Events
variable (events : List Event)

lemma flatMap_printBytes_regardless :
    (events.filterMap Event.regardless?).flatMap Event.printBytes =
      events.flatMap Event.printBytes := by
  induction events with
  | nil => rfl
  | cons e events ih =>
    rw [List.filterMap_cons, List.flatMap_cons, ← ih]
    cases e with
    | logged r => cases r <;> rfl
    | _ => rfl

lemma filterMap_record?_regardless :
    (events.filterMap Event.regardless?).filterMap Event.record? =
      (events.filterMap Event.record?).filter fun r => !r.isReportFailed := by
  induction events with
  | nil => rfl
  | cons e events ih =>
    rw [List.filterMap_cons, List.filterMap_cons]
    cases e with
    | logged r => cases r <;> simp [Event.regardless?, Event.record?, Record.isReportFailed, ih]
    | _ => exact ih

lemma map_fst_report?_regardless :
    ((events.filterMap Event.regardless?).filterMap Event.report?).map Prod.fst =
      (events.filterMap Event.report?).map Prod.fst := by
  induction events with
  | nil => rfl
  | cons e events ih =>
    rw [List.filterMap_cons, List.filterMap_cons]
    cases e with
    | logged r => cases r <;> exact ih
    | reported d taken => exact congrArg (d :: ·) ih
    | _ => exact ih

end Events

namespace Alike
variable {t u : Step α}

lemma printBytes (h : t.Alike u) : t.printBytes = u.printBytes := by
  rw [Step.printBytes, Step.printBytes, ← flatMap_printBytes_regardless, h.events,
    flatMap_printBytes_regardless]

lemma records (h : t.Alike u) :
    (t.records.filter fun r => !r.isReportFailed) =
      u.records.filter fun r => !r.isReportFailed := by
  rw [Step.records, Step.records, ← filterMap_record?_regardless, h.events,
    filterMap_record?_regardless]

lemma diagnostics (h : t.Alike u) : t.diagnostics = u.diagnostics := by
  rw [Step.diagnostics, Step.diagnostics, reported, reported, ← map_fst_report?_regardless,
    h.events, map_fst_report?_regardless]

end Alike

end Step

/-- An operation to which the error channel makes no difference. -/
def Action.IgnoresErrors {α : Type} (x : Action α) : Prop :=
  ∀ ⦃s t : Session⦄, s.Alike t → (x s).Alike (x t)

section Operations
open Session

lemma Action.IgnoresErrors.bind {α β : Type} {x : Action α} {f : α → Action β}
    (hx : x.IgnoresErrors) (hf : ∀ a, (f a).IgnoresErrors) : (x >>= f).IgnoresErrors := by
  intro s t h
  have hfirst := hx h
  have hnext := hf (x s).value hfirst.session
  rw [hfirst.value] at hnext
  rw [Action.bind_run, Action.bind_run, hfirst.value]
  refine ⟨hnext.value, hnext.session, ?_⟩
  rw [List.filterMap_append, List.filterMap_append, hfirst.events, hnext.events]

lemma printText_ignoresErrors (line : String) : (printText line).IgnoresErrors := by
  intro s t h
  unfold printText
  rw [h.print]
  exact ⟨rfl, ⟨h.env, rfl⟩, rfl⟩

lemma report_ignoresErrors (d : Diagnostic) : (report d).IgnoresErrors := by
  -- The record of a diagnostic that does not arrive is not among what is compared.
  have hevents : ∀ s : Session,
      (report d s).events.filterMap Event.regardless? = [Event.reported d 0] := by
    intro s
    unfold report
    dsimp only
    split <;> rfl
  intro s t h
  exact ⟨rfl, ⟨h.env, h.print⟩, (hevents s).trans (hevents t).symm⟩

lemma evaluate_ignoresErrors (e : Expr) : (evaluate e).IgnoresErrors := by
  intro s t h
  unfold evaluate
  rw [h.env]
  exact ⟨rfl, ⟨rfl, h.print⟩, rfl⟩

lemma compositional_ignoresErrors : Compositional fun _ x => x.IgnoresErrors where
  pure _ _ _ h := ⟨rfl, h, rfl⟩
  bind := Action.IgnoresErrors.bind
  emit _ _ _ h := ⟨rfl, h, rfl⟩
  report := report_ignoresErrors
  evaluate := evaluate_ignoresErrors

end Operations

inductive Answer where
  | value (result : Except LineError Float)
  | number (v : Float)
  | flow (result : Except Fault Flow)
  | summary (result : Except Fault Summary)
  | file (result : Except Fault (Option Summary))
  | printed (result : Except Fault Unit)

namespace Operation

def ask : Operation → Action Answer
  | tryLine line => .value <$> Session.tryLine line
  | valueOrZero line => .number <$> Session.valueOrZero line
  | respond line => .flow <$> Session.respond line
  | runLines lines => .summary <$> Session.runLines 1 lines
  | runPath path opened => .file <$> Session.runPath path opened
  | printNumber v => .printed <$> Session.printNumber v
  | printText line => .printed <$> Session.printText line

def steps : List Operation → Session → List (Step Answer)
  | [], _ => []
  | op :: ops, s => op.ask s :: steps ops (op.ask s).session

lemma ask_ignoresErrors (op : Operation) : op.ask.IgnoresErrors := by
  have h := compositional_ignoresErrors
  cases op with
  | tryLine line => exact h.map (h.tryLine line) _
  | valueOrZero line => exact h.map (h.valueOrZero line) _
  | respond line => exact h.map (h.respond printText_ignoresErrors line) _
  | runLines lines => exact h.map (h.runLines printText_ignoresErrors 1 lines) _
  | runPath path opened => exact h.map (h.runPath printText_ignoresErrors path opened) _
  | printNumber v => exact h.map (printText_ignoresErrors _) _
  | printText line => exact h.map (printText_ignoresErrors line) _

theorem steps_alike (ops : List Operation) {s t : Session} (h : s.Alike t) :
    List.Forall₂ Step.Alike (steps ops s) (steps ops t) := by
  induction ops generalizing s t with
  | nil => exact .nil
  | cons op ops ih =>
    have hstep := op.ask_ignoresErrors h
    exact .cons hstep (ih hstep.session)

/-- The error channel is only written to. Any operations on two sessions that differ in their error
channels come to the same, one by one: the answer, the variables after it, the bytes on the print
channel, the diagnostics offered, and all records but those of diagnostics that did not arrive. -/
theorem steps_with_error (ops : List Operation) (s : Session) (first second : Channel) :
    List.Forall₂
      (fun t u : Step Answer => t.value = u.value ∧ t.session.env = u.session.env ∧
        t.printBytes = u.printBytes ∧ t.diagnostics = u.diagnostics ∧
        (t.records.filter fun r => !r.isReportFailed) =
          u.records.filter fun r => !r.isReportFailed)
      (steps ops { s with error := first }) (steps ops { s with error := second }) := by
  have hsame : Session.Alike { s with error := first } { s with error := second } := ⟨rfl, rfl⟩
  refine (steps_alike ops hsame).imp fun t u h => ?_
  exact ⟨h.value, h.session.env, h.printBytes, h.diagnostics, h.records⟩

end Operation

end LineCalculator
