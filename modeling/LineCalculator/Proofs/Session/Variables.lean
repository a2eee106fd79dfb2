import LineCalculator.Proofs.Session.Effects

/-!
# Variables over the life of a session

A session is used by operations in any order, of which any may fail. The lines that they evaluate
are all that decides about its variables: what they assigned last is what a variable holds, and what
has been assigned is never lost.
-/
namespace LineCalculator

namespace Session
variable {s : Session}

lemma runPath_error_does (path : String) (fault : Fault) :
    (runPath path (.error fault) s).Does s [] [] :=
  (log_does _).quiet_bind ((log_does _).quiet_bind ((report_does _).quiet_bind (pure_does _)))

lemma runPath_ok_does {input : Input} {assigned : List Assignment} {offered : List Delivery}
    (path : String) (h : (runInput input s).Does s assigned offered) :
    (runPath path (.ok input) s).Does s assigned offered := by
  refine .quiet_bind (log_does _) (.bind_quiet h fun result s' => ?_)
  cases result with
  | error fault => exact pure_does _
  | ok summary => exact (log_does _).quiet_bind (pure_does _)

end Session

/-- What can be asked of a session. -/
inductive Operation where
  | tryLine (line : String)
  | valueOrZero (line : String)
  | respond (line : String)
  /-- Run what a reader gives: lines, and faults where a line could not be read. -/
  | runLines (lines : List (Except Fault String))
  | runPath (path : String) (opened : Except Fault Input)
  | printNumber (v : Float)
  | printText (line : String)

namespace Operation

def perform : Operation → Action Unit
  | tryLine line => (fun _ => ()) <$> Session.tryLine line
  | valueOrZero line => (fun _ => ()) <$> Session.valueOrZero line
  | respond line => (fun _ => ()) <$> Session.respond line
  | runLines lines => (fun _ => ()) <$> Session.runLines 1 lines
  | runPath path opened => (fun _ => ()) <$> Session.runPath path opened
  | printNumber v => (fun _ => ()) <$> Session.printNumber v
  | printText line => (fun _ => ()) <$> Session.printText line

def performAll : List Operation → Action Unit
  | [] => pure ()
  | op :: ops => do
    op.perform
    performAll ops

/-- The lines that an operation evaluates in a session. -/
inductive Feeds (s : Session) : Operation → List String → Prop
  | tryLine (line : String) : Feeds s (tryLine line) [line]
  | valueOrZero (line : String) : Feeds s (valueOrZero line) [line]
  | exit {line : String} (h : isExit line = true) : Feeds s (respond line) []
  | respond {line : String} (h : isExit line = false) : Feeds s (respond line) [line]
  | runLines {lines : List (Except Fault String)} {reached : List String}
      (h : Reaches 1 lines reached ((runLines lines).perform s).offered) :
      Feeds s (runLines lines) (unskipped reached)
  | unopened (path : String) (fault : Fault) : Feeds s (runPath path (.error fault)) []
  | runPath {path : String} {input : Input} {reached : List String}
      (h : Reaches 1 input.lines reached ((runPath path (.ok input)).perform s).offered) :
      Feeds s (runPath path (.ok input)) (unskipped reached)
  | printNumber (v : Float) : Feeds s (printNumber v) []
  | printText (line : String) : Feeds s (printText line) []

/-- The lines that operations evaluate, one operation after the other. -/
inductive FeedsAll : Session → List Operation → List String → Prop
  | nil {s : Session} : FeedsAll s [] []
  | cons {s : Session} {op : Operation} {ops : List Operation} {lines more : List String}
      (head : Feeds s op lines) (tail : FeedsAll (op.perform s).session ops more) :
      FeedsAll s (op :: ops) (lines ++ more)

theorem perform_does (op : Operation) (s : Session) :
    ∃ lines assigned offered, Feeds s op lines ∧ Completes s.env lines assigned ∧
      (op.perform s).Does s assigned offered := by
  cases op with
  | tryLine line =>
    obtain ⟨assigned, hline, hdoes⟩ := Session.tryLine_does (s := s) line
    exact ⟨[line], assigned, _, .tryLine line, .single hline, hdoes.map _⟩
  | valueOrZero line =>
    obtain ⟨assigned, hline, hdoes⟩ := Session.valueOrZero_does (s := s) line
    exact ⟨[line], assigned, _, .valueOrZero line, .single hline, hdoes.map _⟩
  | respond line =>
    cases hexit : isExit line with
    | true =>
      have hdoes : (Session.respond line s).Does s [] [] := by
        rw [Session.respond, if_pos hexit]
        exact Session.pure_does _
      exact ⟨[], [], _, .exit hexit, .nil, hdoes.map _⟩
    | false =>
      obtain ⟨assigned, hline, hdoes⟩ := Session.respond_does (s := s) hexit
      exact ⟨[line], assigned, _, .respond hexit, .single hline, hdoes.map _⟩
  | runLines lines =>
    obtain ⟨reached, assigned, offered, hreach, hcomplete, hdoes⟩ := Session.runLines_does 1 lines s
    have hperform : ((runLines lines).perform s).Does s assigned offered := hdoes.map _
    rw [← hperform.offered] at hreach
    exact ⟨unskipped reached, assigned, offered, .runLines hreach, hcomplete, hperform⟩
  | runPath path opened =>
    cases opened with
    | error fault =>
      have hdoes := Session.runPath_error_does (s := s) path fault
      exact ⟨[], [], _, .unopened path fault, .nil, hdoes.map _⟩
    | ok input =>
      obtain ⟨reached, assigned, offered, hreach, hcomplete, hdoes⟩ :=
        Session.runLines_does 1 input.lines s
      have hperform : ((runPath path (.ok input)).perform s).Does s assigned offered :=
        (Session.runPath_ok_does path hdoes).map _
      rw [← hperform.offered] at hreach
      exact ⟨unskipped reached, assigned, offered, .runPath hreach, hcomplete, hperform⟩
  | printNumber v => exact ⟨[], [], _, .printNumber v, .nil, (Session.printText_does _).map _⟩
  | printText line => exact ⟨[], [], _, .printText line, .nil, (Session.printText_does _).map _⟩

theorem performAll_does (ops : List Operation) (s : Session) :
    ∃ lines assigned offered, FeedsAll s ops lines ∧ Completes s.env lines assigned ∧
      (performAll ops s).Does s assigned offered := by
  induction ops generalizing s with
  | nil => exact ⟨[], [], [], .nil, .nil, Session.pure_does ()⟩
  | cons op ops ih =>
    obtain ⟨lines, first, early, hfeeds, hcomplete, hdoes⟩ := perform_does op s
    obtain ⟨more, next, late, hmore, hrest, hdoes'⟩ := ih (op.perform s).session
    rw [hdoes.env] at hrest
    exact ⟨lines ++ more, first ++ next, early ++ late, .cons hfeeds hmore, hcomplete.append hrest,
      hdoes.bind hdoes'⟩

lemma isSome_get_performAll {ops : List Operation} {s : Session} {x : String}
    (h : (s.env.get x).isSome) : ((performAll ops s).session.env.get x).isSome := by
  obtain ⟨_, assigned, _, -, -, hdoes⟩ := performAll_does ops s
  rw [hdoes.env]
  exact Environment.isSome_get_replay h assigned

lemma session_performAll_append (before after : List Operation) (s : Session) :
    (performAll (before ++ after) s).session =
      (performAll after (performAll before s).session).session := by
  induction before generalizing s with
  | nil => rfl
  | cons op before ih => exact ih (op.perform s).session

/-- A session that has done any operations since it was new. A variable has the value of the latest
completed assignment to it, and none if there is none. No variable is lost on the way, and all have
names as names are written. The completed assignments are those of the lines that the operations
fed to evaluation. -/
theorem variables_performAll (ops : List Operation) (print error : Channel) :
    let s : Session := { print, error }
    let t := performAll ops s
    (∀ x v, t.session.env.get x = some v ↔ Latest x v t.assigned) ∧
    (∀ before after, ops = before ++ after →
      ∀ x, ((performAll before s).session.env.get x).isSome → (t.session.env.get x).isSome) ∧
    (∀ x v, t.session.env.get x = some v → IsNameText x.toList) ∧
    ∃ lines, FeedsAll s ops lines ∧ Completes ∅ lines t.assigned := by
  intro s t
  obtain ⟨lines, assigned, offered, hfeeds, hcomplete, hdoes⟩ := performAll_does ops s
  have hget : ∀ x v, t.session.env.get x = some v ↔ Latest x v t.assigned := by
    intro x v
    rw [hdoes.env, hdoes.assigned, Environment.get_replay_iff]
    simp [s]
  rw [← hdoes.assigned] at hcomplete
  refine ⟨hget, fun before after hops x hx => ?_, fun x v hx => ?_, lines, hfeeds, hcomplete⟩
  · simp only [t, hops, session_performAll_append]
    exact isSome_get_performAll hx
  · obtain ⟨before, a, after, hassigned, rfl, -⟩ := (hget x v).mp hx
    rw [hassigned] at hcomplete
    exact hcomplete.isNameText a (by simp)

end Operation

end LineCalculator
