import LineCalculator.Proofs.Session.Transcript

/-!
# Diagnostics offered

A session offers diagnostics to its error channel, and goes on whatever the channel takes of them.
Which diagnostics an operation offers is said here for every session; a channel that works takes
them whole.
-/
namespace LineCalculator

def Event.report? : Event → Option (Diagnostic × Nat)
  | reported d taken => some (d, taken)
  | _ => none

namespace Step
variable {α β : Type}

/-- The diagnostics that a step offered to the error channel, each with the bytes taken of it. -/
def reported (t : Step α) : List (Diagnostic × Nat) := t.events.filterMap Event.report?

def diagnostics (t : Step α) : List Diagnostic := t.reported.map Prod.fst

lemma reported_bind (x : Action α) (f : α → Action β) (s : Session) :
    ((x >>= f) s).reported = (x s).reported ++ (f (x s).value (x s).session).reported :=
  List.filterMap_append

lemma diagnostics_bind (x : Action α) (f : α → Action β) (s : Session) :
    ((x >>= f) s).diagnostics = (x s).diagnostics ++ (f (x s).value (x s).session).diagnostics := by
  rw [diagnostics, reported_bind, List.map_append]
  rfl

lemma errorBytes_eq (t : Step α) :
    t.errorBytes = t.reported.flatMap fun p => Delivery.bytes ⟨p.1.message, p.2⟩ := by
  unfold errorBytes reported
  induction t.events with
  | nil => rfl
  | cons e events ih =>
    rw [List.flatMap_cons, ih]
    cases e <;> rfl

end Step

namespace Session
variable {s : Session}

lemma reported_emit_logged {β : Type} (f : β → Record) (xs : List β) :
    (emit (xs.map fun x => .logged (f x)) s).reported = [] := by
  change (xs.map fun x => Event.logged (f x)).filterMap Event.report? = []
  rw [List.filterMap_map]
  exact List.filterMap_eq_nil_iff.mpr fun _ _ => rfl

lemma reported_parsedEvents (p : Parsed) : (emit (parsedEvents p) s).reported = [] := by
  unfold parsedEvents
  cases p.ignored <;> rfl

lemma reported_evaluate (e : Expr) : (evaluate e s).reported = [] := by
  refine List.filterMap_eq_nil_iff.mpr fun event hmem => ?_
  obtain ⟨a, -, ha⟩ := List.mem_flatMap.mp hmem
  rcases List.mem_cons.mp ha with rfl | ha
  · rfl
  · cases hr : a.replaced with
    | none => simp [hr] at ha
    | some old =>
      obtain rfl : event = _ := by simpa [hr] using ha
      rfl

lemma diagnostics_report (d : Diagnostic) : (report d s).diagnostics = [d] := by
  unfold report Step.diagnostics Step.reported
  dsimp only
  split <;> rfl

lemma diagnostics_reportAll (ds : List Diagnostic) : (reportAll ds s).diagnostics = ds := by
  induction ds generalizing s with
  | nil => rfl
  | cons d ds ih =>
    rw [reportAll, Step.diagnostics_bind, diagnostics_report, ih, List.singleton_append]

theorem tryLine_reported (line : String) (s : Session) :
    (tryLine line s).reported =
      (reportAll ((scan line).unknown.map .unknownCharacter) s).reported := by
  cases hp : parse (scan line).items with
  | error e =>
    simp only [tryLine, hp, Step.reported_bind, reported_emit_logged, List.nil_append]
    exact List.append_nil _
  | ok p =>
    simp only [tryLine, hp, Step.reported_bind, reported_emit_logged, reported_parsedEvents,
      reported_evaluate, List.nil_append]
    refine (congrArg (_ ++ ·) ?_).trans (List.append_nil _)
    generalize (evaluate p.expr _).value = result
    cases result <;> rfl

lemma tryLine_diagnostics (line : String) (s : Session) :
    (tryLine line s).diagnostics = (scan line).unknown.map .unknownCharacter := by
  rw [Step.diagnostics, tryLine_reported]
  exact diagnostics_reportAll _

/-- A line of the interactive loop reports its unknown characters first, and then its failure. -/
theorem valueOrZero_diagnostics (line : String) (s : Session) :
    (valueOrZero line s).diagnostics =
      LineResult.reports .failed ⟨line, (lineOutcome s.env line).1⟩ := by
  rw [valueOrZero, Step.diagnostics_bind, tryLine_diagnostics, tryLine_value, LineResult.reports]
  cases (lineOutcome s.env line).1 with
  | ok v => rfl
  | error e =>
    rw [Step.diagnostics_bind, Step.diagnostics_bind, diagnostics_report]
    rfl

lemma errorBytes_reportAll (h : s.error.Works) (ds : List Diagnostic) :
    (reportAll ds s).errorBytes = ds.flatMap fun d => lineBytes d.message := by
  induction ds generalizing s with
  | nil => rfl
  | cons d ds ih =>
    have hrest := ih (s := (report d s).session) (h.send_snd d.message)
    rw [List.flatMap_cons, ← report_errorBytes h, ← hrest]
    exact List.flatMap_append

lemma tryLine_errorBytes (h : s.error.Works) (line : String) :
    (tryLine line s).errorBytes = (scan line).unknown.flatMap fun u => lineBytes u.message := by
  rw [Step.errorBytes_eq, tryLine_reported, ← Step.errorBytes_eq, errorBytes_reportAll h,
    List.flatMap_map]
  rfl

end Session

end LineCalculator
