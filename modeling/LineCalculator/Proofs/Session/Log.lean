import LineCalculator.Proofs.Session.ErrorChannel
import LineCalculator.Proofs.Session.Renumbering

/-!
# What the log tells

A problem with a line is told twice: in the log, and by a diagnostic offered to the error channel.
An unknown character has a warning of the scan and a diagnostic of the session; a failed line has a
record and a diagnostic, each with its words. Both sides tell the same, in the same order, and a
diagnostic that does not arrive is told by one more record right behind it. So the log alone tells
what failed and why, whatever the error channel takes.
-/
namespace LineCalculator

/-- Read a failure off a text that begins with `mark`: the number of the line, if there is one, and
the message behind the colon. -/
def failureAfter? (mark text : String) : Option (Option Nat × String) :=
  match text.toList.dropPrefix? (mark ++ ": ").toList with
  | some message => some (none, String.ofList message)
  | none => (numberAfter? (mark ++ " at line ") text).map fun (n, message) => (some n, message)

section FailureAfter
variable {mark front : String}

lemma failureAfter?_plain (h : front = mark ++ ": ") (message : String) :
    failureAfter? mark (front ++ message) = some (none, message) := by
  rw [failureAfter?, ← h, String.toList_append,
    List.dropPrefix?_append_of_beq _ (beq_self_eq_true front.toList)]
  change some (none, String.ofList message.toList) = _
  rw [String.ofList_toList]

lemma failureAfter?_numbered (h : front = mark ++ " at line ") (n : Nat) (message : String) :
    failureAfter? mark (front ++ toString n ++ ": " ++ message) = some (some n, message) := by
  have hplain : (front ++ toString n ++ ": " ++ message).toList.dropPrefix?
      (mark ++ ": ").toList = none := by
    refine Option.eq_none_iff_forall_ne_some.mpr fun rest hrest => ?_
    obtain ⟨begun, hbegun, hbeq⟩ := List.dropPrefix?_eq_some_iff.mp hrest
    rw [eq_of_beq hbeq, h] at hbegun
    simp only [String.toList_append, List.append_assoc, List.append_cancel_left_eq] at hbegun
    -- Behind the mark there is a blank on one side and a colon on the other.
    exact absurd (List.cons.inj hbegun).1 (by decide)
  rw [failureAfter?, hplain, ← h, numberAfter?_mark]
  rfl

lemma failureAfter?_eq_none {text : String} {c d : Char} (hmark : mark.toList.head? = some c)
    (htext : text.toList.head? = some d) (hne : d ≠ c) : failureAfter? mark text = none := by
  have hplain : text.toList.dropPrefix? (mark ++ ": ").toList = none := by
    refine Option.eq_none_iff_forall_ne_some.mpr fun rest hrest => hne ?_
    obtain ⟨begun, hbegun, hbeq⟩ := List.dropPrefix?_eq_some_iff.mp hrest
    rw [hbegun, eq_of_beq hbeq, List.head?_append, head?_toList_append hmark, Option.some_or]
      at htext
    exact (Option.some.inj htext).symm
  rw [failureAfter?, hplain, numberAfter?_eq_none (head?_toList_append hmark _) htext hne]
  rfl

end FailureAfter

namespace Record

def failure? (r : Record) : Option (Option Nat × String) :=
  if r.severity = .error then failureAfter? "Evaluate error" r.message else none

lemma failure?_of_ne {r : Record} (h : r.severity ≠ .error) : r.failure? = none := if_neg h

lemma failure?_of_eq (r : Record) (h : r.severity = .error) :
    r.failure? = failureAfter? "Evaluate error" r.message := if_pos h

lemma failure?_failed (e : LineError) : (failed e).failure? = some (none, e.message) :=
  (failure?_of_eq (failed e) rfl).trans (failureAfter?_plain (by decide) _)

lemma failure?_failedAt (n : Nat) (e : LineError) :
    (failedAt n e).failure? = some (some n, e.message) :=
  (failure?_of_eq (failedAt n e) rfl).trans (failureAfter?_numbered (by decide) _ _)

lemma failure?_reportFailed (fault : Fault) : (reportFailed fault).failure? = none := by
  refine (failure?_of_eq (reportFailed fault) rfl).trans ?_
  exact failureAfter?_eq_none (c := 'E') (d := 'w') (by decide)
    (head?_toList_append (by decide) _) (by decide)

lemma failure?_openFailed (path : String) (fault : Fault) :
    (openFailed path fault).failure? = none := by
  refine (failure?_of_eq (openFailed path fault) rfl).trans ?_
  refine failureAfter?_eq_none (c := 'E') (d := 'o') (by decide) ?_ (by decide)
  exact head?_toList_append (head?_toList_append (head?_toList_append (by decide) _) _) _

end Record

namespace Diagnostic

def failure? (d : Diagnostic) : Option (Option Nat × String) := failureAfter? "Error" d.message

def unknown? : Diagnostic → Option UnknownCharacter
  | unknownCharacter u => some u
  | _ => none

lemma failure?_unknownCharacter (u : UnknownCharacter) : (unknownCharacter u).failure? = none :=
  failureAfter?_eq_none (c := 'E') (d := 'U') (by decide) (head?_toList_append (by decide) _)
    (by decide)

lemma failure?_failed (e : LineError) : (failed e).failure? = some (none, e.message) :=
  failureAfter?_plain (by decide) _

lemma failure?_failedAt (n : Nat) (e : LineError) :
    (failedAt n e).failure? = some (some n, e.message) :=
  failureAfter?_numbered (by decide) _ _

lemma failure?_unreadable (n : Nat) (fault : Fault) : (unreadable n fault).failure? = none := by
  refine failureAfter?_eq_none (c := 'E') (d := 'C') (by decide) ?_ (by decide)
  exact head?_toList_append (head?_toList_append (head?_toList_append (by decide) _) _) _

lemma failure?_cannotOpen (path : String) : (cannotOpen path).failure? = none :=
  failureAfter?_eq_none (c := 'E') (d := 'C') (by decide) (head?_toList_append (by decide) _)
    (by decide)

end Diagnostic

namespace Event

def isComplaint : Event → Bool
  | logged r => r.isReportFailed
  | _ => false

/-- An event with the record that belongs behind it: one behind a diagnostic that did not arrive
completely, and none behind anything else. -/
def withComplaint : Event → List Event
  | reported d taken =>
    reported d taken ::
      if Delivery.complete ⟨d.message, taken⟩ then [] else [logged (.reportFailed .channelFull)]
  | e => [e]

/-- An event that tells of no problem with a line. -/
def isPlain : Event → Bool
  | logged r => r.severity != .warn && r.severity != .error
  | reported _ _ => false
  | _ => true

variable {e : Event}

lemma isComplaint_of_isPlain (h : e.isPlain = true) : e.isComplaint = false := by
  cases e with
  | logged r =>
    cases r with
    | reportFailed fault => cases h
    | _ => rfl
  | _ => rfl

lemma withComplaint_of_isPlain (h : e.isPlain = true) : e.withComplaint = [e] := by
  cases e with
  | reported d taken => cases h
  | _ => rfl

lemma report?_of_isPlain (h : e.isPlain = true) : e.report? = none := by
  cases e with
  | reported d taken => cases h
  | _ => rfl

end Event

namespace Step
variable {α β : Type}

lemma records_bind (x : Action α) (f : α → Action β) (s : Session) :
    ((x >>= f) s).records = (x s).records ++ (f (x s).value (x s).session).records :=
  List.filterMap_append

/-- Behind every diagnostic that did not arrive completely, and nowhere else, stands one record that
says so. -/
def Complains (t : Step α) : Prop :=
  t.events = (t.events.filter fun e => !e.isComplaint).flatMap Event.withComplaint

lemma Complains.bind {x : Action α} {f : α → Action β} {s : Session} (h : (x s).Complains)
    (h' : (f (x s).value (x s).session).Complains) : ((x >>= f) s).Complains := by
  rw [Complains, Action.bind_run, List.filter_append, List.flatMap_append]
  exact congrArg₂ (· ++ ·) h h'

/-- A step warned of unknown characters, recorded failed lines and offered diagnostics. -/
structure Tells (t : Step α) (warned : List UnknownCharacter)
    (failures : List (Option Nat × String)) (reported : List Diagnostic) : Prop where
  warned : (t.records.filter fun r => r.severity == .warn) = warned.map .skippedCharacter
  failures : t.records.filterMap Record.failure? = failures
  reported : t.diagnostics = reported
  complains : t.Complains

namespace Tells
variable {s : Session} {x : Action α} {f : α → Action β}
variable {warned warned' : List UnknownCharacter} {failures failures' : List (Option Nat × String)}
variable {reported reported' : List Diagnostic}

lemma bind (h : (x s).Tells warned failures reported)
    (h' : (f (x s).value (x s).session).Tells warned' failures' reported') :
    ((x >>= f) s).Tells (warned ++ warned') (failures ++ failures') (reported ++ reported') where
  warned := by rw [records_bind, List.filter_append, h.warned, h'.warned, List.map_append]
  failures := by rw [records_bind, List.filterMap_append, h.failures, h'.failures]
  reported := by rw [diagnostics_bind, h.reported, h'.reported]
  complains := h.complains.bind h'.complains

lemma bind_of_value {a : α} (hv : (x s).value = a) (h : (x s).Tells warned failures reported)
    (h' : (f a (x s).session).Tells warned' failures' reported') :
    ((x >>= f) s).Tells (warned ++ warned') (failures ++ failures') (reported ++ reported') := by
  subst hv
  exact h.bind h'

lemma plain_bind (h : (x s).Tells [] [] [])
    (h' : (f (x s).value (x s).session).Tells warned failures reported) :
    ((x >>= f) s).Tells warned failures reported := h.bind h'

lemma bind_plain (h : (x s).Tells warned failures reported)
    (h' : ∀ a s', (f a s').Tells [] [] []) : ((x >>= f) s).Tells warned failures reported := by
  simpa using h.bind (h' _ _)

lemma bind_reports (h : (x s).Tells warned [] [])
    (h' : (f (x s).value (x s).session).Tells [] [] reported) :
    ((x >>= f) s).Tells warned [] reported := by
  simpa using h.bind h'

lemma map (h : (x s).Tells warned failures reported) (g : α → β) :
    ((g <$> x) s).Tells warned failures reported :=
  ⟨h.warned, h.failures, h.reported, h.complains⟩

lemma of_isPlain {t : Step α} (h : ∀ e ∈ t.events, e.isPlain = true) : t.Tells [] [] [] := by
  have hrecords : ∀ r ∈ t.records, r.severity ≠ .warn ∧ r.severity ≠ .error := by
    intro r hr
    obtain ⟨e, he, hlogged⟩ := List.mem_filterMap.mp hr
    cases e with
    | logged r' =>
      obtain rfl : r' = r := Option.some.inj hlogged
      simpa [Event.isPlain] using h _ he
    | _ => cases hlogged
  refine ⟨?_, ?_, ?_, ?_⟩
  · refine List.filter_eq_nil_iff.mpr fun r hr => ?_
    simpa using (hrecords r hr).1
  · exact List.filterMap_eq_nil_iff.mpr fun r hr => Record.failure?_of_ne (hrecords r hr).2
  · have hnone : t.reported = [] :=
      List.filterMap_eq_nil_iff.mpr fun e he => Event.report?_of_isPlain (h e he)
    rw [diagnostics, hnone, List.map_nil]
  · have hkeep : ∀ e ∈ t.events, (!e.isComplaint) = true := fun e he => by
      rw [Event.isComplaint_of_isPlain (h e he), Bool.not_false]
    rw [Complains, List.filter_eq_self.mpr hkeep,
      List.flatMap_congr fun e he => Event.withComplaint_of_isPlain (h e he)]
    simp

end Tells

end Step

namespace Session
variable {s : Session}

lemma pure_tells {α : Type} (value : α) : ((pure value : Action α) s).Tells [] [] [] :=
  .of_isPlain (List.forall_mem_nil _)

lemma emit_tells {events : List Event} (h : ∀ e ∈ events, e.isPlain = true) :
    (emit events s).Tells [] [] [] := .of_isPlain h

lemma log_tells {r : Record} (hwarn : (r.severity == .warn) = false)
    (h : r.isReportFailed = false) : (log r s).Tells [] r.failure?.toList [] where
  warned := by
    change List.filter _ [r] = _
    simp [hwarn]
  failures := by
    change List.filterMap Record.failure? [r] = _
    rw [List.filterMap_cons]
    cases r.failure? <;> rfl
  reported := rfl
  complains := by
    change [Event.logged r] = List.flatMap _ ([Event.logged r].filter _)
    simp [Event.isComplaint, h, Event.withComplaint]

lemma log_plain (r : Record) (h : (Event.logged r).isPlain = true) : (log r s).Tells [] [] [] :=
  emit_tells (by simpa using h)

lemma report_tells (d : Diagnostic) : (report d s).Tells [] [] [d] := by
  have hevents : (report d s).events =
      Event.withComplaint (.reported d (s.error.send d.message).1.taken) := rfl
  have hrecords : (report d s).records = [] ∨
      (report d s).records = [.reportFailed .channelFull] := by
    rw [Step.records, hevents, Event.withComplaint]
    split
    · exact .inl rfl
    · exact .inr rfl
  have hfilter : ((report d s).events.filter fun e => !e.isComplaint) =
      [.reported d (s.error.send d.message).1.taken] := by
    rw [hevents, Event.withComplaint]
    split <;> rfl
  refine ⟨?_, ?_, diagnostics_report d, ?_⟩
  · rcases hrecords with h | h <;> rw [h] <;> rfl
  · rcases hrecords with h | h
    · rw [h, List.filterMap_nil]
    · rw [h, List.filterMap_cons, Record.failure?_reportFailed, List.filterMap_nil]
  · rw [Step.Complains, hfilter, List.flatMap_singleton, hevents]

lemma reportAll_tells (ds : List Diagnostic) : (reportAll ds s).Tells [] [] ds := by
  induction ds generalizing s with
  | nil => exact pure_tells ()
  | cons d ds ih => exact (report_tells d).bind ih

lemma warn_tells (us : List UnknownCharacter) :
    (emit (us.map fun u => .logged (.skippedCharacter u)) s).Tells us [] [] := by
  induction us with
  | nil => exact .of_isPlain (List.forall_mem_nil _)
  | cons u us ih =>
    have hfirst : (log (.skippedCharacter u) s).Tells [u] [] [] := ⟨rfl, rfl, rfl, rfl⟩
    exact hfirst.bind (f := fun _ => emit (us.map fun u => .logged (.skippedCharacter u))) ih

lemma parsedEvents_plain (p : Parsed) : (emit (parsedEvents p) s).Tells [] [] [] := by
  refine emit_tells fun e he => ?_
  unfold parsedEvents at he
  rcases List.mem_append.mp he with he | he
  · cases hi : p.ignored with
    | nil => simp [hi] at he
    | cons i is =>
      obtain rfl : e = _ := by simpa [hi] using he
      rfl
  · obtain rfl := List.mem_singleton.mp he
    rfl

lemma evaluate_plain (e : Expr) : (evaluate e s).Tells [] [] [] := by
  refine .of_isPlain fun event hmem => ?_
  obtain ⟨a, -, ha⟩ := List.mem_flatMap.mp hmem
  rcases List.mem_cons.mp ha with rfl | ha
  · rfl
  · cases hr : a.replaced with
    | none => simp [hr] at ha
    | some old =>
      obtain rfl : event = _ := by simpa [hr] using ha
      rfl

lemma printText_plain (line : String) : (printText line s).Tells [] [] [] :=
  .of_isPlain (List.forall_mem_singleton.mpr rfl)

/-- A line warns of its unknown characters and reports them. That it fails is for others to tell. -/
theorem tryLine_tells (line : String) :
    (tryLine line s).Tells (scan line).unknown []
      ((scan line).unknown.map .unknownCharacter) := by
  have hwarned := warn_tells (s := s) (scan line).unknown
  have hreported := reportAll_tells (s := s) ((scan line).unknown.map .unknownCharacter)
  have hscanned : ∀ s', (emit ((scan line).items.map fun i => .logged (.scanned i)) s').Tells
      [] [] [] := by
    refine fun s' => emit_tells fun e he => ?_
    obtain ⟨i, -, rfl⟩ := List.mem_map.mp he
    rfl
  rw [tryLine]
  refine .bind_reports hwarned (.bind_plain hreported fun _ s' => .plain_bind (hscanned s') ?_)
  cases parse (scan line).items with
  | error e => exact (log_plain (.parseFailed _) rfl).plain_bind (pure_tells _)
  | ok p =>
    refine (parsedEvents_plain p).plain_bind ?_
    refine (evaluate_plain p.expr).bind_plain fun result s' => ?_
    cases result with
    | error e => exact pure_tells _
    | ok v => exact (log_plain (.evaluated _ _) rfl).plain_bind (pure_tells _)

end Session

end LineCalculator
