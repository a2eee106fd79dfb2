import LineCalculator.Proofs.Session.Outcome
import Mathlib.Data.List.TakeWhile

/-!
# What a session writes

Channels that work take every line whole and work on. What operations then write adds up, so that a
run of lines writes what its lines write one after the other: their results to the print channel,
their diagnostics to the error channel.
-/
namespace LineCalculator

namespace Channel

/-- A channel that takes every byte to come. -/
def Works (c : Channel) : Prop := ∀ i, c.offered ≤ i → c.accepts i = true

variable {c : Channel}

lemma Works.takes (h : c.Works) (n : Nat) : c.takes n = n := by
  have hall : (List.range n).takeWhile (fun i => c.accepts (c.offered + i)) = List.range n := by
    rw [List.takeWhile_eq_self_iff]
    intro i _
    exact h _ (Nat.le_add_right _ _)
  rw [Channel.takes, hall, List.length_range]

lemma Works.send_fst (h : c.Works) (line : String) :
    (c.send line).1 = ⟨line, (lineBytes line).length⟩ := by
  rw [send, h.takes]

lemma Works.send_snd (h : c.Works) (line : String) : (c.send line).2.Works := by
  intro i hi
  have hle : c.offered ≤ (c.send line).2.offered := by
    rw [send]
    exact Nat.le_add_right _ _
  exact h i (Nat.le_trans hle hi)

end Channel

def Event.IsSilent (e : Event) : Prop := e.printBytes = [] ∧ e.errorBytes = []

@[simp] lemma Event.isSilent_logged (r : Record) : (logged r).IsSilent := ⟨rfl, rfl⟩

@[simp] lemma Event.isSilent_assigned (a : Assignment) : (assigned a).IsSilent := ⟨rfl, rfl⟩

structure Session.Works (s : Session) : Prop where
  print : s.print.Works
  error : s.error.Works

namespace Step
variable {α β : Type}

def printBytes (t : Step α) : List UInt8 := t.events.flatMap Event.printBytes

def errorBytes (t : Step α) : List UInt8 := t.events.flatMap Event.errorBytes

lemma printBytes_bind (x : Action α) (f : α → Action β) (s : Session) :
    ((x >>= f) s).printBytes = (x s).printBytes ++ (f (x s).value (x s).session).printBytes :=
  List.flatMap_append

/-- A step printed lines and reported diagnostics, all of them whole, and the channels work on. -/
structure Writes (t : Step α) (printed : List String) (reported : List Diagnostic) : Prop where
  print : t.printBytes = printed.flatMap lineBytes
  error : t.errorBytes = reported.flatMap fun d => lineBytes d.message
  works : t.session.Works

namespace Writes
variable {s : Session} {x : Action α} {f : α → Action β}
variable {early late : List String} {first next : List Diagnostic}

lemma bind (h : (x s).Writes early first)
    (h' : (f (x s).value (x s).session).Writes late next) :
    ((x >>= f) s).Writes (early ++ late) (first ++ next) where
  print := by
    rw [List.flatMap_append, ← h.print, ← h'.print]
    exact List.flatMap_append
  error := by
    rw [List.flatMap_append, ← h.error, ← h'.error]
    exact List.flatMap_append
  works := h'.works

lemma bind_of_value {a : α} (hv : (x s).value = a) (h : (x s).Writes early first)
    (h' : (f a (x s).session).Writes late next) :
    ((x >>= f) s).Writes (early ++ late) (first ++ next) := by
  subst hv
  exact h.bind h'

lemma silent_bind (h : (x s).Writes [] [])
    (h' : (f (x s).value (x s).session).Writes late next) : ((x >>= f) s).Writes late next :=
  h.bind h'

lemma bind_silent (h : (x s).Writes early first)
    (h' : ∀ a s', s'.Works → (f a s').Writes [] []) : ((x >>= f) s).Writes early first := by
  simpa using h.bind (h' _ _ h.works)

lemma bind_print (h : (x s).Writes [] first)
    (h' : (f (x s).value (x s).session).Writes late []) : ((x >>= f) s).Writes late first := by
  simpa using h.bind h'

lemma map (h : (x s).Writes early first) (g : α → β) : ((g <$> x) s).Writes early first :=
  ⟨h.print, h.error, h.works⟩

end Writes

end Step

namespace LineResult

def printedAt (n : Nat) (r : LineResult) : List String :=
  match r.result with
  | .ok v => ["Line " ++ toString n ++ ": " ++ display v]
  | .error _ => []

def answer (r : LineResult) : String :=
  match r.result with
  | .ok v => display v
  | .error _ => "0"

/-- The diagnostics for a line, given the one for its failure. -/
def reports (failed : LineError → Diagnostic) (r : LineResult) : List Diagnostic :=
  (scan r.line).unknown.map .unknownCharacter ++
    match r.result with
    | .ok _ => []
    | .error e => [failed e]

end LineResult

namespace Session
variable {s : Session}

lemma pure_writes {α : Type} (h : s.Works) (value : α) :
    ((pure value : Action α) s).Writes [] [] := ⟨rfl, rfl, h⟩

lemma emit_writes {events : List Event} (h : s.Works) (hevents : ∀ e ∈ events, e.IsSilent) :
    (emit events s).Writes [] [] where
  print := List.flatMap_eq_nil_iff.mpr fun e he => (hevents e he).1
  error := List.flatMap_eq_nil_iff.mpr fun e he => (hevents e he).2
  works := h

lemma log_writes (h : s.Works) (r : Record) : (log r s).Writes [] [] := emit_writes h (by simp)

lemma printText_writes (h : s.Works) (line : String) : (printText line s).Writes [line] [] where
  print := by
    simp [Step.printBytes, printText, h.print.send_fst, Event.printBytes, Delivery.bytes]
  error := rfl
  works := ⟨h.print.send_snd line, h.error⟩

lemma printText_value (h : s.Works) (line : String) : (printText line s).value = .ok () := by
  refine printText_value_ok ?_
  rw [h.print.send_fst]
  exact beq_self_eq_true _

lemma report_errorBytes (h : s.error.Works) (d : Diagnostic) :
    (report d s).errorBytes = lineBytes d.message := by
  simp [Step.errorBytes, report, h.send_fst, Event.errorBytes, Delivery.complete, Delivery.bytes]

lemma report_writes (h : s.Works) (d : Diagnostic) : (report d s).Writes [] [d] where
  print := by simp [Step.printBytes, report, h.error.send_fst, Event.printBytes, Delivery.complete]
  error := by rw [report_errorBytes h.error, List.flatMap_singleton]
  works := ⟨h.print, h.error.send_snd d.message⟩

lemma reportAll_writes (h : s.Works) (ds : List Diagnostic) : (reportAll ds s).Writes [] ds := by
  induction ds generalizing s with
  | nil => exact pure_writes h ()
  | cons d ds ih =>
    have hfirst := report_writes h d
    exact hfirst.bind (ih hfirst.works)

lemma evaluate_writes (h : s.Works) (e : Expr) : (evaluate e s).Writes [] [] := by
  have hevents : ∀ event ∈ (e.evaluate s.env).assigned.flatMap assignmentEvents,
      event.IsSilent := by
    intro event hmem
    obtain ⟨a, -, ha⟩ := List.mem_flatMap.mp hmem
    cases hr : a.replaced <;>
      simp only [assignmentEvents, hr, List.mem_cons, List.not_mem_nil] at ha
    · obtain rfl : event = _ := by simpa using ha
      simp
    · rcases ha with rfl | ha
      · simp
      · obtain rfl : event = _ := by simpa using ha
        simp
  have hemit := emit_writes h hevents
  exact ⟨hemit.print, hemit.error, h.print, h.error⟩

theorem tryLine_writes (h : s.Works) (line : String) :
    (tryLine line s).Writes [] ((scan line).unknown.map .unknownCharacter) := by
  have hreports := reportAll_writes h ((scan line).unknown.map .unknownCharacter)
  cases hp : parse (scan line).items with
  | error e =>
    simp only [tryLine, hp]
    refine .silent_bind (emit_writes h (by simp)) (.bind_silent hreports fun _ s' h' => ?_)
    refine .silent_bind (emit_writes h' (by simp)) ?_
    exact (log_writes h' _).silent_bind (pure_writes h' _)
  | ok p =>
    simp only [tryLine, hp]
    refine .silent_bind (emit_writes h (by simp)) (.bind_silent hreports fun _ s' h' => ?_)
    refine .silent_bind (emit_writes h' (by simp)) (.silent_bind (emit_writes h' ?_) ?_)
    · cases hi : p.ignored <;> simp [parsedEvents, hi]
    · refine .bind_silent (evaluate_writes h' p.expr) fun result s'' h'' => ?_
      cases result with
      | error err => exact pure_writes h'' _
      | ok v => exact (log_writes h'' _).silent_bind (pure_writes h'' _)

lemma valueOrZero_writes (h : s.Works) (line : String) :
    (valueOrZero line s).Writes []
      (LineResult.reports .failed ⟨line, (lineOutcome s.env line).1⟩) := by
  have hline := tryLine_writes h line
  have hvalue := tryLine_value line s
  cases hr : (lineOutcome s.env line).1 with
  | ok v =>
    refine .bind_of_value (hvalue.trans hr) hline ?_
    exact pure_writes hline.works v
  | error e =>
    refine .bind_of_value (hvalue.trans hr) hline ?_
    have hreport := report_writes hline.works (.failed e)
    refine (log_writes hline.works _).silent_bind (hreport.bind_silent fun _ s' h' => ?_)
    exact pure_writes h' _

lemma valueOrZero_env (line : String) (s : Session) :
    (valueOrZero line s).session.env = (lineOutcome s.env line).2 := by
  rw [← tryLine_env, valueOrZero, Action.bind_run]
  cases (tryLine line s).value <;> rfl

lemma display_valueOrZero (line : String) (s : Session) :
    display (valueOrZero line s).value = LineResult.answer ⟨line, (lineOutcome s.env line).1⟩ := by
  have hzero : display 0 = "0" := by decide +kernel
  rw [LineResult.answer, ← tryLine_value, valueOrZero, Action.bind_run]
  cases (tryLine line s).value with
  | ok v => rfl
  | error e => exact hzero

theorem respond_writes (h : s.Works) {line : String} (hexit : isExit line = false) :
    (respond line s).value = .ok .goOn ∧
    (respond line s).session.env = (lineOutcome s.env line).2 ∧
    (respond line s).Writes [LineResult.answer ⟨line, (lineOutcome s.env line).1⟩]
      (LineResult.reports .failed ⟨line, (lineOutcome s.env line).1⟩) := by
  have hvalue := valueOrZero_writes h line
  have hprinted := printText_value hvalue.works (display (valueOrZero line s).value)
  have hprint := printText_writes hvalue.works (display (valueOrZero line s).value)
  rw [respond, if_neg (by simp [hexit])]
  refine ⟨?_, ?_, ?_⟩
  · simp only [Action.bind_run, printNumber, hprinted, Action.pure_run]
  · rw [← valueOrZero_env]
    simp only [Action.bind_run, printNumber, hprinted, Action.pure_run]
    exact (printText_does _).env_eq
  · rw [← display_valueOrZero]
    refine hvalue.bind_print (.bind_silent hprint fun result s' h' => ?_)
    cases result with
    | error fault => exact pure_writes h' _
    | ok _ => exact pure_writes h' _

theorem mapM_respond_writes {lines : List String} (h : s.Works)
    (hexit : ∀ line ∈ lines, isExit line = false) :
    (lines.mapM respond s).value = lines.map (fun _ => .ok .goOn) ∧
    (lines.mapM respond s).session.env = envAfter s.env lines ∧
    (lines.mapM respond s).Writes ((lineResults s.env lines).map LineResult.answer)
      ((lineResults s.env lines).flatMap (LineResult.reports .failed)) := by
  induction lines generalizing s with
  | nil => exact ⟨rfl, rfl, pure_writes h _⟩
  | cons line rest ih =>
    obtain ⟨hline, hrest⟩ := List.forall_mem_cons.mp hexit
    obtain ⟨hvalue, henv, hwrites⟩ := respond_writes h hline
    obtain ⟨hvalues, henvs, hall⟩ := ih hwrites.works hrest
    rw [henv] at henvs hall
    rw [List.mapM_cons]
    refine ⟨?_, henvs, hwrites.bind (hall.bind_silent fun _ s' h' => pure_writes h' _)⟩
    simp only [Action.bind_run, Action.pure_run, hvalue, hvalues, List.map_cons]

end Session

end LineCalculator
