import LineCalculator.Event
import LineCalculator.Grammar

/-!
# Sessions

A session evaluates lines one after the other. The variables live as long as the session; results
go to the print channel and diagnostics to the error channel. A refused result is a fault of the
operation, a refused diagnostic is only recorded.
-/
namespace LineCalculator

structure Session where
  env : Environment := ∅
  print : Channel := .unlimited
  error : Channel := .unlimited

/-- What an operation of a session answers, leaves and does. -/
structure Step (α : Type) where
  value : α
  session : Session
  events : List Event

/-- An operation of a session. -/
def Action (α : Type) : Type := Session → Step α

namespace Action

/-- First one operation, then the next with its answer. -/
def andThen {α β : Type} (first : Action α) (next : α → Action β) : Action β := fun s =>
  let a := first s
  let b := next a.value a.session
  ⟨b.value, b.session, a.events ++ b.events⟩

/-- Change the answer of an operation and nothing else. -/
def map {α β : Type} (f : α → β) (x : Action α) : Action β := fun s =>
  let a := x s
  ⟨f a.value, a.session, a.events⟩

instance : Monad Action where
  map := map
  pure value := fun s => ⟨value, s, []⟩
  bind := andThen

theorem pure_run {α : Type} (value : α) (s : Session) :
    (pure value : Action α) s = ⟨value, s, []⟩ := rfl

theorem map_run {α β : Type} (f : α → β) (x : Action α) (s : Session) :
    (f <$> x) s = ⟨f (x s).value, (x s).session, (x s).events⟩ := rfl

theorem bind_run {α β : Type} (first : Action α) (next : α → Action β) (s : Session) :
    (first >>= next) s =
      ⟨(next (first s).value (first s).session).value,
        (next (first s).value (first s).session).session,
        (first s).events ++ (next (first s).value (first s).session).events⟩ := rfl

instance : LawfulMonad Action :=
  LawfulMonad.mk' Action
    (fun _ => rfl)
    (fun _ _ => rfl)
    (fun _ _ _ => funext fun s => by simp only [bind_run, List.append_assoc])
    (fun _ _ => rfl)
    (fun _ _ => rfl)
    (fun _ _ => rfl)
    (fun f x => funext fun s => by simp only [bind_run, pure_run, map_run, List.append_nil])
    (fun _ _ => rfl)

end Action

namespace Session

/-- Do something that leaves the session as it is. -/
def emit (events : List Event) : Action Unit := fun s => ⟨(), s, events⟩

def log (r : Record) : Action Unit := emit [.logged r]

def printText (line : String) : Action (Except Fault Unit) := fun s =>
  let (delivery, channel) := s.print.send line
  ⟨if delivery.complete then .ok () else .error .channelFull, { s with print := channel },
    [.printed line delivery.taken]⟩

def printNumber (v : Float) : Action (Except Fault Unit) := printText (display v)

/-- Offer a diagnostic to the error channel; a diagnostic that does not arrive is recorded. -/
def report (d : Diagnostic) : Action Unit := fun s =>
  let (delivery, channel) := s.error.send d.message
  ⟨(), { s with error := channel }, .reported d delivery.taken ::
    if delivery.complete then [] else [.logged (.reportFailed .channelFull)]⟩

def reportAll : List Diagnostic → Action Unit
  | [] => pure ()
  | d :: rest => do
    report d
    reportAll rest

/-- The events of an assignment: a value that is replaced is recorded. -/
def assignmentEvents (a : Assignment) : List Event :=
  .assigned a ::
    match a.replaced with
    | some old => [.logged (.reassigned a.name old a.value)]
    | none => []

def evaluate (e : Expr) : Action (Except EvalError Float) := fun s =>
  let outcome := e.evaluate s.env
  ⟨outcome.result, { s with env := outcome.env }, outcome.assigned.flatMap assignmentEvents⟩

/-- The records of a line that could be parsed. -/
def parsedEvents (p : Parsed) : List Event :=
  (match p.ignored with
    | [] => []
    | first :: rest => [.logged (.ignored (rest.length + 1) first)]) ++
  [.logged (.parsed p.expr)]

/-- Evaluate a line. Unknown characters are reported and do not fail the line. -/
def tryLine (line : String) : Action (Except LineError Float) := do
  let scanned := scan line
  emit (scanned.unknown.map fun u => .logged (.skippedCharacter u))
  reportAll (scanned.unknown.map .unknownCharacter)
  emit (scanned.items.map fun i => .logged (.scanned i))
  match parse scanned.items with
  | .error e =>
    log (.parseFailed e.start?)
    return .error (.parse e)
  | .ok parsed =>
    emit (parsedEvents parsed)
    match ← evaluate parsed.expr with
    | .error e => return .error (.evaluation e)
    | .ok v =>
      log (.evaluated line v)
      return .ok v

/-- Evaluate a line; a line that fails is reported and counts as zero. -/
def valueOrZero (line : String) : Action Float := do
  match ← tryLine line with
  | .ok v => return v
  | .error e =>
    log (.failed e)
    report (.failed e)
    return 0

end Session

end LineCalculator
