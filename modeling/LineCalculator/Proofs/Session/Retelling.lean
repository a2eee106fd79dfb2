import LineCalculator.Proofs.Session.Cutting
import LineCalculator.Proofs.Session.Log
import LineCalculator.Proofs.Session.Truncation

/-!
# The log and the diagnostics side by side

Operations in any order evaluate lines. The warnings in the log name the unknown characters of these
lines, the error records their failures, and the diagnostics name both once more, in the same order.
This is so for one line, it passes from two operations to one after the other, and so it is for any
run and any life of a session.
-/
namespace LineCalculator

def LineResult.error? (r : LineResult) : Option LineError :=
  match r.result with
  | .ok _ => none
  | .error e => some e

lemma lineResults_append (env : Environment) (lines more : List String) :
    lineResults env (lines ++ more) =
      lineResults env lines ++ lineResults (envAfter env lines) more := by
  induction lines generalizing env with
  | nil => rfl
  | cons line lines ih => exact congrArg (_ :: ·) (ih _)

def unknownCharacters (lines : List String) : List UnknownCharacter :=
  lines.flatMap fun line => (scan line).unknown

def failureMessages (env : Environment) (lines : List String) : List String :=
  (lineResults env lines).filterMap fun r => r.error?.map LineError.message

lemma failureMessages_append (env : Environment) (lines more : List String) :
    failureMessages env (lines ++ more) =
      failureMessages env lines ++ failureMessages (envAfter env lines) more := by
  rw [failureMessages, lineResults_append, List.filterMap_append]
  rfl

namespace Step
variable {α β : Type}

lemma offered_bind (x : Action α) (f : α → Action β) (s : Session) :
    ((x >>= f) s).offered = (x s).offered ++ (f (x s).value (x s).session).offered :=
  List.filterMap_append

/-- A step evaluates lines. What is wrong with them is in its log and in its diagnostics: the
unknown characters, and the failures. -/
structure Retells (t : Step α) (s : Session) (lines : List String) : Prop where
  env : t.session.env = envAfter s.env lines
  warned : (t.records.filter fun r => r.severity == .warn) =
    (unknownCharacters lines).map .skippedCharacter
  unknown : t.diagnostics.filterMap Diagnostic.unknown? = unknownCharacters lines
  failures : t.records.filterMap Record.failure? = t.diagnostics.filterMap Diagnostic.failure?
  messages : (t.records.filterMap Record.failure?).map Prod.snd = failureMessages s.env lines
  complains : t.Complains

namespace Retells
variable {s : Session} {x : Action α} {f : α → Action β} {lines more : List String}

lemma bind (h : (x s).Retells s lines)
    (h' : (f (x s).value (x s).session).Retells (x s).session more) :
    ((x >>= f) s).Retells s (lines ++ more) where
  env := by
    rw [envAfter_append, ← h.env]
    exact h'.env
  warned := by
    rw [records_bind, List.filter_append, h.warned, h'.warned, ← List.map_append,
      unknownCharacters, unknownCharacters, ← List.flatMap_append]
    rfl
  unknown := by
    rw [diagnostics_bind, List.filterMap_append, h.unknown, h'.unknown, unknownCharacters,
      unknownCharacters, ← List.flatMap_append]
    rfl
  failures := by
    rw [records_bind, diagnostics_bind, List.filterMap_append, List.filterMap_append, h.failures,
      h'.failures]
  messages := by
    rw [records_bind, List.filterMap_append, List.map_append, h.messages, h'.messages, h.env,
      failureMessages_append]
  complains := h.complains.bind h'.complains

lemma bind_of_value {a : α} (hv : (x s).value = a) (h : (x s).Retells s lines)
    (h' : (f a (x s).session).Retells (x s).session more) :
    ((x >>= f) s).Retells s (lines ++ more) := by
  subst hv
  exact h.bind h'

lemma quiet_bind (h : (x s).Retells s [])
    (h' : (f (x s).value (x s).session).Retells (x s).session lines) :
    ((x >>= f) s).Retells s lines := h.bind h'

lemma bind_quiet (h : (x s).Retells s lines) (h' : ∀ a s', (f a s').Retells s' []) :
    ((x >>= f) s).Retells s lines := by
  simpa using h.bind (h' _ _)

lemma map (h : (x s).Retells s lines) (g : α → β) : ((g <$> x) s).Retells s lines :=
  ⟨h.env, h.warned, h.unknown, h.failures, h.messages, h.complains⟩

end Retells

section Tells
variable {s : Session} {t : Step α} {line : String}

lemma Retells.of_nil {reported : List Diagnostic} (h : t.Tells [] [] reported)
    (henv : t.session.env = s.env) (hunknown : reported.filterMap Diagnostic.unknown? = [])
    (hfailure : reported.filterMap Diagnostic.failure? = []) : t.Retells s [] where
  env := henv
  warned := h.warned
  unknown := by
    rw [h.reported, hunknown]
    rfl
  failures := by rw [h.failures, h.reported, hfailure]
  messages := by
    rw [h.failures]
    rfl
  complains := h.complains

lemma filterMap_unknown?_unknownCharacter (us : List UnknownCharacter) :
    (us.map Diagnostic.unknownCharacter).filterMap Diagnostic.unknown? = us := by
  rw [List.filterMap_map]
  exact List.filterMap_some

lemma filterMap_failure?_unknownCharacter (us : List UnknownCharacter) :
    (us.map Diagnostic.unknownCharacter).filterMap Diagnostic.failure? = [] := by
  rw [List.filterMap_map]
  exact List.filterMap_eq_nil_iff.mpr fun u _ => Diagnostic.failure?_unknownCharacter u

lemma Retells.of_value {v : Float} (hv : (lineOutcome s.env line).1 = .ok v)
    (henv : t.session.env = (lineOutcome s.env line).2)
    (h : t.Tells (scan line).unknown [] ((scan line).unknown.map .unknownCharacter)) :
    t.Retells s [line] where
  env := henv
  warned := by rw [h.warned, unknownCharacters, List.flatMap_singleton]
  unknown := by
    rw [h.reported, filterMap_unknown?_unknownCharacter, unknownCharacters, List.flatMap_singleton]
  failures := by rw [h.failures, h.reported, filterMap_failure?_unknownCharacter]
  messages := by
    rw [h.failures, failureMessages, lineResults, hv]
    rfl
  complains := h.complains

lemma Retells.of_failure {e : LineError} {place : Option Nat} {d : Diagnostic}
    (he : (lineOutcome s.env line).1 = .error e)
    (henv : t.session.env = (lineOutcome s.env line).2) (hunknown : d.unknown? = none)
    (hfailure : d.failure? = some (place, e.message))
    (h : t.Tells (scan line).unknown [(place, e.message)]
      ((scan line).unknown.map .unknownCharacter ++ [d])) : t.Retells s [line] where
  env := henv
  warned := by rw [h.warned, unknownCharacters, List.flatMap_singleton]
  unknown := by
    rw [h.reported, List.filterMap_append, filterMap_unknown?_unknownCharacter,
      List.filterMap_cons_none hunknown, List.filterMap_nil, List.append_nil, unknownCharacters,
      List.flatMap_singleton]
  failures := by
    rw [h.failures, h.reported, List.filterMap_append, filterMap_failure?_unknownCharacter,
      List.filterMap_cons_some hfailure, List.filterMap_nil, List.nil_append]
  messages := by
    rw [h.failures, failureMessages, lineResults, he]
    rfl
  complains := h.complains

end Tells

end Step

namespace Session
variable {s : Session}

lemma pure_retells {α : Type} (value : α) : ((pure value : Action α) s).Retells s [] :=
  .of_nil (pure_tells value) rfl rfl rfl

lemma log_retells {r : Record} (hwarn : (r.severity == .warn) = false)
    (harrives : r.isReportFailed = false) (hfailure : r.failure? = none) :
    (log r s).Retells s [] := by
  have h := log_tells (s := s) hwarn harrives
  rw [hfailure] at h
  exact .of_nil h rfl rfl rfl

lemma report_retells {d : Diagnostic} (hunknown : d.unknown? = none)
    (hfailure : d.failure? = none) : (report d s).Retells s [] :=
  .of_nil (report_tells d) rfl (List.filterMap_cons_none hunknown)
    (List.filterMap_cons_none hfailure)

lemma printText_retells (line : String) : (printText line s).Retells s [] :=
  .of_nil (printText_plain line) rfl rfl rfl

lemma complain_tells {α : Type} {r : Record} {d : Diagnostic} {failure : Option Nat × String}
    {k : Action α} (hrecord : r.failure? = some failure) (hk : ∀ s', (k s').Tells [] [] []) :
    ((log r >>= fun _ => report d >>= fun _ => k) s).Tells [] [failure] [d] := by
  have herror : r.severity = .error := by
    by_contra hne
    rw [Record.failure?_of_ne hne] at hrecord
    cases hrecord
  have harrives : r.isReportFailed = false := by
    cases r with
    | reportFailed fault => simp [Record.failure?_reportFailed] at hrecord
    | _ => rfl
  have hlog : (log r s).Tells [] [failure] [] := by
    have h := log_tells (s := s) (by rw [herror]; rfl) harrives
    rwa [hrecord] at h
  exact hlog.bind ((report_tells d).bind_plain fun _ s' => hk s')

lemma tried_retells {α : Type} {f : Except LineError Float → Action α} {place : Option Nat}
    {d : LineError → Diagnostic} (hvalue : ∀ v s', (f (.ok v) s').Tells [] [] [])
    (hfailure : ∀ e s', (f (.error e) s').Tells [] [(place, e.message)] [d e])
    (henv : ∀ result s', (f result s').session.env = s'.env)
    (hunknown : ∀ e, (d e).unknown? = none)
    (hplace : ∀ e, (d e).failure? = some (place, e.message)) (line : String) :
    ((tryLine line >>= f) s).Retells s [line] := by
  have hline := tryLine_tells (s := s) line
  have hafter : ((tryLine line >>= f) s).session.env = (lineOutcome s.env line).2 :=
    (henv _ _).trans (tryLine_env line s)
  cases hr : (lineOutcome s.env line).1 with
  | ok v =>
    have hwhole := hline.bind_of_value ((tryLine_value line s).trans hr) (hvalue v _)
    simp only [List.append_nil] at hwhole
    exact .of_value hr hafter hwhole
  | error e =>
    have hwhole := hline.bind_of_value ((tryLine_value line s).trans hr) (hfailure e _)
    rw [List.append_nil] at hwhole
    exact .of_failure hr hafter (hunknown e) (hplace e) hwhole

lemma valueOrZero_retells (line : String) : (valueOrZero line s).Retells s [line] := by
  refine tried_retells (fun v _ => pure_tells v) (fun e s' => ?_) (fun result s' => ?_)
    (fun _ => rfl) Diagnostic.failure?_failed line
  · exact complain_tells (Record.failure?_failed e) fun _ => pure_tells 0
  · cases result <;> rfl

lemma respond_retells {line : String} (h : isExit line = false) :
    (respond line s).Retells s [line] := by
  rw [respond, if_neg (by simp [h])]
  refine (valueOrZero_retells line).bind_quiet fun v s' => ?_
  refine (printText_retells (display v)).bind_quiet fun printed s'' => ?_
  cases printed with
  | error fault => exact pure_retells _
  | ok _ => exact pure_retells _

lemma runLine_retells (n : Nat) (line : String) :
    (runLines n [.ok line] s).Retells s (unskipped [line]) := by
  rw [runLines]
  cases hskip : isSkipped line with
  | true =>
    rw [unskipped_cons_of_isSkipped hskip]
    exact (pure_retells _).map _
  | false =>
    rw [unskipped_cons hskip, if_neg Bool.false_ne_true]
    refine tried_retells (fun v s' => ?_) (fun e s' => ?_) (fun result s' => ?_)
      (fun _ => rfl) (Diagnostic.failure?_failedAt n) line
    · refine (printText_plain _).bind_plain fun printed s'' => ?_
      cases printed with
      | error fault => exact pure_tells _
      | ok _ => exact (pure_tells _).map _
    · exact complain_tells (Record.failure?_failedAt n e) fun _ => (pure_tells _).map _
    · cases result with
      | error e =>
        refine Step.Does.env_eq (?_ : Step.Does _ s' [] [])
        exact (log_does _).quiet_bind ((report_does _).quiet_bind ((pure_does _).map _))
      | ok v =>
        refine ((printText_does _).bind_quiet fun printed s'' => ?_).env_eq
        cases printed with
        | error fault => exact pure_does _
        | ok _ => exact (pure_does _).map _

lemma runLine_reaches (n : Nat) (line : String) :
    ((∃ summary, (runLines n [.ok line] s).value = .ok summary) ∧
      ∀ d ∈ (runLines n [.ok line] s).offered, d.complete = true) ∨
    ((∃ fault, (runLines n [.ok line] s).value = .error fault) ∧
      ∀ rest, Reaches n (.ok line :: rest) [line] (runLines n [.ok line] s).offered) := by
  cases hskip : isSkipped line with
  | true =>
    rw [runLines, if_pos hskip]
    exact .inl ⟨⟨_, rfl⟩, List.forall_mem_nil _⟩
  | false =>
    obtain ⟨assigned, -, hline⟩ := tryLine_does (s := s) line
    cases hv : (tryLine line s).value with
    | error e =>
      have hdoes : (runLines n [.ok line] s).Does s (assigned ++ []) [] := by
        rw [runLines, if_neg (by simp [hskip])]
        refine .silent_bind hv hline ((log_does _).quiet_bind ((report_does _).quiet_bind ?_))
        exact (pure_does _).map _
      rw [hdoes.offered]
      exact .inl ⟨(runLine_quiet (.inr ⟨e, hv⟩)).1, List.forall_mem_nil _⟩
    | ok v =>
      have hrun : runLines n [.ok line] s = _ := runLine_result hskip hv s.print
      have hoffered : (runLines n [.ok line] s).offered =
          [(s.print.send (resultLine n v)).1] := by
        rw [hrun, Step.offered, List.filterMap_append, ← Step.offered, hline.offered]
        rfl
      rw [hoffered, hrun]
      cases hd : (s.print.send (resultLine n v)).1.complete with
      | true => exact .inl ⟨⟨_, rfl⟩, List.forall_mem_singleton.mpr hd⟩
      | false =>
        refine .inr ⟨⟨_, rfl⟩, fun rest => ?_⟩
        exact .toRefused [] line rest [] _ v rfl rfl hskip rfl (List.forall_mem_nil _)
          (Channel.send_line _ _) hd

theorem runLines_retells (n : Nat) (lines : List (Except Fault String)) (s : Session) :
    ∃ reached, Reaches n lines reached (runLines n lines s).offered ∧
      (runLines n lines s).Retells s (unskipped reached) := by
  induction lines generalizing n s with
  | nil => exact ⟨[], .toEnd rfl (List.forall_mem_nil _), pure_retells _⟩
  | cons head rest ih =>
    cases head with
    | error fault =>
      have hdoes : (runLines n (.error fault :: rest) s).Does s [] [] :=
        (report_does _).quiet_bind (pure_does _)
      refine ⟨[], ?_, ?_⟩
      · rw [hdoes.offered]
        exact .toUnreadable rfl (List.forall_mem_nil _)
      · have hreport : (report (.unreadable n fault) s).Retells s [] :=
          report_retells rfl (Diagnostic.failure?_unreadable n fault)
        exact hreport.quiet_bind (pure_retells _)
    | ok line =>
      have hline := runLine_retells (s := s) n line
      rw [runLines_cons]
      rcases runLine_reaches (s := s) n line with
        ⟨⟨summary, hvalue⟩, htaken⟩ | ⟨⟨fault, hvalue⟩, hreach⟩
      · obtain ⟨reached, hreach, hrest⟩ := ih (n + 1) (runLines n [.ok line] s).session
        refine ⟨line :: reached, ?_, ?_⟩
        · rw [Step.offered_bind, hvalue]
          exact hreach.cons line htaken
        · have hlines : unskipped (line :: reached) = unskipped [line] ++ unskipped reached :=
            unskipped_append [line] reached
          rw [hlines]
          exact hline.bind_of_value hvalue (hrest.map _)
      · refine ⟨[line], ?_, ?_⟩
        · rw [Step.offered_bind, hvalue]
          have hstop :
              (goOn (n + 1) rest (.error fault) (runLines n [.ok line] s).session).offered = [] :=
            rfl
          rw [hstop, List.append_nil]
          exact hreach rest
        · rw [← List.append_nil (unskipped [line])]
          exact hline.bind_of_value hvalue (pure_retells _)

lemma runPath_retells {input : Input} {lines : List String} (path : String)
    (h : (runInput input s).Retells s lines) : (runPath path (.ok input) s).Retells s lines := by
  have hopening : (log (.opening path) s).Retells s [] := log_retells rfl rfl rfl
  refine hopening.quiet_bind (h.bind_quiet fun result s' => ?_)
  cases result with
  | error fault => exact pure_retells _
  | ok summary =>
    have hfinished : (log (.finished path summary) s').Retells s' [] := log_retells rfl rfl rfl
    exact hfinished.quiet_bind (pure_retells _)

lemma runPath_error_retells (path : String) (fault : Fault) :
    (runPath path (.error fault) s).Retells s [] := by
  have hopening : (log (.opening path) s).Retells s [] := log_retells rfl rfl rfl
  have hfailed : (log (.openFailed path fault) s).Retells s [] :=
    log_retells rfl rfl (Record.failure?_openFailed path fault)
  have hreport : (report (.cannotOpen path) s).Retells s [] :=
    report_retells rfl (Diagnostic.failure?_cannotOpen path)
  exact hopening.quiet_bind (hfailed.quiet_bind (hreport.quiet_bind (pure_retells _)))

end Session

namespace Operation

/-- An operation that tells of the lines that fail in it: any but the bare evaluation of a line,
which leaves the failure to its caller. -/
def TellsFailures : Operation → Prop
  | tryLine _ => False
  | _ => True

theorem perform_retells {op : Operation} (h : op.TellsFailures) (s : Session) :
    ∃ lines, Feeds s op lines ∧ (op.perform s).Retells s lines := by
  cases op with
  | tryLine line => exact absurd h id
  | valueOrZero line => exact ⟨[line], .valueOrZero line, (Session.valueOrZero_retells line).map _⟩
  | respond line =>
    cases hexit : isExit line with
    | true =>
      have hpure : (Session.respond line s).Retells s [] := by
        rw [Session.respond, if_pos hexit]
        exact Session.pure_retells _
      exact ⟨[], .exit hexit, hpure.map _⟩
    | false => exact ⟨[line], .respond hexit, (Session.respond_retells hexit).map _⟩
  | runLines lines =>
    obtain ⟨reached, hreach, hretells⟩ := Session.runLines_retells 1 lines s
    exact ⟨unskipped reached, .runLines hreach, hretells.map _⟩
  | runPath path opened =>
    cases opened with
    | error fault =>
      exact ⟨[], .unopened path fault, (Session.runPath_error_retells path fault).map _⟩
    | ok input =>
      obtain ⟨reached, hreach, hretells⟩ := Session.runLines_retells 1 input.lines s
      obtain ⟨_, _, offered, -, -, hdoes⟩ := Session.runLines_does 1 input.lines s
      have hperform : ((runPath path (.ok input)).perform s).offered =
          (Session.runLines 1 input.lines s).offered :=
        (Session.runPath_ok_does path hdoes).offered.trans hdoes.offered.symm
      rw [← hperform] at hreach
      exact ⟨unskipped reached, .runPath hreach, (Session.runPath_retells path hretells).map _⟩
  | printNumber v => exact ⟨[], .printNumber v, (Session.printText_retells _).map _⟩
  | printText line => exact ⟨[], .printText line, (Session.printText_retells line).map _⟩

theorem performAll_retells {ops : List Operation} (h : ∀ op ∈ ops, op.TellsFailures)
    (s : Session) :
    ∃ lines, FeedsAll s ops lines ∧ (performAll ops s).Retells s lines := by
  induction ops generalizing s with
  | nil => exact ⟨[], .nil, Session.pure_retells ()⟩
  | cons op ops ih =>
    obtain ⟨hop, hops⟩ := List.forall_mem_cons.mp h
    obtain ⟨lines, hfeeds, hretells⟩ := perform_retells hop s
    obtain ⟨more, hmore, hrest⟩ := ih hops (op.perform s).session
    exact ⟨lines ++ more, .cons hfeeds hmore, hretells.bind hrest⟩

/-- The log and the diagnostics of a session that does any operations, whatever its channels take:
the warnings name the unknown characters that are reported, one by one; the error records and the
diagnostics tell of the same failed lines, with the same numbers and the same messages; and a
diagnostic that does not arrive completely has one record right behind it that says so, and there
are no others. So the failures of all lines that were evaluated can be read off the log. -/
theorem log_matches_diagnostics {ops : List Operation} (h : ∀ op ∈ ops, op.TellsFailures)
    (s : Session) :
    let run := performAll ops s
    (run.records.filter fun r => r.severity == .warn) =
      (run.diagnostics.filterMap Diagnostic.unknown?).map .skippedCharacter ∧
    run.records.filterMap Record.failure? = run.diagnostics.filterMap Diagnostic.failure? ∧
    run.events = (run.events.filter fun e => !e.isComplaint).flatMap Event.withComplaint ∧
    ∃ lines, FeedsAll s ops lines ∧
      run.diagnostics.filterMap Diagnostic.unknown? = unknownCharacters lines ∧
      (run.records.filterMap Record.failure?).map Prod.snd = failureMessages s.env lines := by
  intro run
  obtain ⟨lines, hfeeds, hretells⟩ := performAll_retells h s
  refine ⟨?_, hretells.failures, hretells.complains, lines, hfeeds, hretells.unknown,
    hretells.messages⟩
  rw [hretells.unknown]
  exact hretells.warned

/-- An error channel that takes ten bytes of what is wrong with `é (x` and `y`. The log tells of one
unknown character, of a parenthesis that is not closed, and of a variable without a value. -/
theorem log_matches_diagnostics_two :
    let ops := [valueOrZero "é (x", respond "y"]
    let s : Session := { error := .limited 10 }
    let run := performAll ops s
    (∀ op ∈ ops, op.TellsFailures) ∧
      run.records.filterMap Record.failure? = run.diagnostics.filterMap Diagnostic.failure? ∧
      run.events = (run.events.filter fun e => !e.isComplaint).flatMap Event.withComplaint ∧
      (run.records.filter fun r => r.severity == .warn).map Record.message =
        ["skipping unknown character 'é' at 0"] ∧
      (run.records.filterMap Record.failure?).map Prod.snd =
        ["Expected closing parenthesis for `(` at position [3:3], found `end of input` at " ++
          "position [5:5]", "Undefined variable: `y`"] := by
  intro ops s run
  have hops : ∀ op ∈ ops, op.TellsFailures := by simp [ops, TellsFailures]
  obtain ⟨hwarned, hfailures, hcomplains, lines, hfeeds, hunknown, hmessages⟩ :=
    log_matches_diagnostics hops s
  have hlines : lines = ["é (x", "y"] := by
    change FeedsAll s [valueOrZero "é (x", respond "y"] lines at hfeeds
    obtain _ | ⟨⟨⟩, hrest⟩ := hfeeds
    obtain _ | ⟨hsecond, ⟨⟩⟩ := hrest
    cases hsecond with
    | exit hexit => exact absurd hexit (by decide +kernel)
    | respond _ => rfl
  have hfirst : lineOutcome s.env "é (x" =
      (.error (.parse (.unclosed ⟨3, 3⟩ "end of input" ⟨5, 5⟩)), s.env) := by cbv
  have hsecond : (lineOutcome s.env "y").1 = .error (.evaluation (.undefinedVariable "y")) := by
    cbv
  refine ⟨hops, hfailures, hcomplains, ?_, ?_⟩
  · rw [hwarned, hunknown, hlines]
    decide +kernel
  · rw [hmessages, hlines, failureMessages, lineResults, lineResults, lineResults, hfirst, hsecond]
    decide +kernel

end Operation

end LineCalculator
