import LineCalculator.Proofs.Session.Lines
import LineCalculator.Session.Interactive
import LineCalculator.Session.Reader

/-!
# Effects of a session

Of what an operation does, two things are followed here: the assignments that it completes, and the
lines that it offers to the print channel. Both add up when operations follow one another. A run of
lines ends at a line that cannot be read or at a result that is not printed, and the lines up to
there are all that it evaluates.
-/
namespace LineCalculator

def Event.delivery? : Event → Option Delivery
  | printed line taken => some ⟨line, taken⟩
  | _ => none

/-- An event that is neither an assignment nor an offer to the print channel. -/
def Event.IsQuiet (e : Event) : Prop := e.assignment? = none ∧ e.delivery? = none

@[simp] lemma Event.isQuiet_logged (r : Record) : (logged r).IsQuiet := ⟨rfl, rfl⟩

@[simp] lemma Event.isQuiet_reported (d : Diagnostic) (taken : Nat) : (reported d taken).IsQuiet :=
  ⟨rfl, rfl⟩

lemma Channel.send_line (c : Channel) (line : String) : (c.send line).1.line = line := rfl

namespace Step
variable {α : Type}

def assigned (t : Step α) : List Assignment := t.events.filterMap Event.assignment?

def offered (t : Step α) : List Delivery := t.events.filterMap Event.delivery?

/-- A step completed assignments, which are all that it did to the variables, and offered lines. -/
structure Does (t : Step α) (s : Session) (assigned : List Assignment) (offered : List Delivery) :
    Prop where
  env : t.session.env = s.env.replay assigned
  assigned : t.assigned = assigned
  offered : t.offered = offered

namespace Does
variable {β : Type} {s : Session} {x : Action α} {f : α → Action β}
variable {first next : List Assignment} {early late : List Delivery}

lemma env_eq {t : Step α} (h : t.Does s [] early) : t.session.env = s.env := h.env

lemma bind (h : (x s).Does s first early)
    (h' : (f (x s).value (x s).session).Does (x s).session next late) :
    ((x >>= f) s).Does s (first ++ next) (early ++ late) where
  env := by
    rw [Action.bind_run, Environment.replay_append, ← h.env]
    exact h'.env
  assigned := by
    rw [← h.assigned, ← h'.assigned]
    exact List.filterMap_append
  offered := by
    rw [← h.offered, ← h'.offered]
    exact List.filterMap_append

lemma bind_of_value {a : α} (hv : (x s).value = a) (h : (x s).Does s first early)
    (h' : (f a (x s).session).Does (x s).session next late) :
    ((x >>= f) s).Does s (first ++ next) (early ++ late) := by
  subst hv
  exact h.bind h'

lemma silent_bind {a : α} (hv : (x s).value = a) (h : (x s).Does s first [])
    (h' : (f a (x s).session).Does (x s).session next late) :
    ((x >>= f) s).Does s (first ++ next) late := h.bind_of_value hv h'

lemma quiet_bind (h : (x s).Does s [] [])
    (h' : (f (x s).value (x s).session).Does (x s).session next late) :
    ((x >>= f) s).Does s next late := h.bind h'

lemma bind_quiet (h : (x s).Does s first early) (h' : ∀ a s', (f a s').Does s' [] []) :
    ((x >>= f) s).Does s first early := by
  simpa using h.bind (h' _ _)

lemma map (h : (x s).Does s first early) (g : α → β) : ((g <$> x) s).Does s first early :=
  ⟨h.env, h.assigned, h.offered⟩

end Does

end Step

namespace Session
variable {s : Session}

lemma pure_does {α : Type} (value : α) : ((pure value : Action α) s).Does s [] [] := ⟨rfl, rfl, rfl⟩

lemma does_of_isQuiet {α : Type} {t : Step α} (henv : t.session.env = s.env)
    (h : ∀ e ∈ t.events, e.IsQuiet) : t.Does s [] [] where
  env := henv
  assigned := List.filterMap_eq_nil_iff.mpr fun e he => (h e he).1
  offered := List.filterMap_eq_nil_iff.mpr fun e he => (h e he).2

lemma emit_does {events : List Event} (h : ∀ e ∈ events, e.IsQuiet) :
    (emit events s).Does s [] [] := does_of_isQuiet rfl h

lemma log_does (r : Record) : (log r s).Does s [] [] := emit_does (by simp)

lemma printText_does (line : String) :
    (printText line s).Does s [] [(s.print.send line).1] := ⟨rfl, rfl, rfl⟩

lemma printText_value_ok {line : String} (h : (s.print.send line).1.complete = true) :
    (printText line s).value = .ok () := by
  simp [printText, h]

lemma printText_value_error {line : String} (h : (s.print.send line).1.complete = false) :
    (printText line s).value = .error .channelFull := by
  simp [printText, h]

lemma report_does (d : Diagnostic) : (report d s).Does s [] [] := by
  refine does_of_isQuiet rfl ?_
  simp only [report, List.forall_mem_cons]
  refine ⟨Event.isQuiet_reported _ _, ?_⟩
  split <;> simp

lemma reportAll_does (ds : List Diagnostic) : (reportAll ds s).Does s [] [] := by
  induction ds generalizing s with
  | nil => exact pure_does ()
  | cons d ds ih => exact (report_does d).quiet_bind ih

lemma evaluate_does (e : Expr) :
    (evaluate e s).Does s (e.evaluate s.env).assigned [] where
  env := (e.evaluate_replays s.env).env
  assigned := by
    change ((e.evaluate s.env).assigned.flatMap assignmentEvents).filterMap Event.assignment? = _
    induction (e.evaluate s.env).assigned with
    | nil => rfl
    | cons a as ih =>
      rw [List.flatMap_cons, List.filterMap_append, ih]
      cases hr : a.replaced <;> simp [assignmentEvents, hr, Event.assignment?]
  offered := by
    refine List.filterMap_eq_nil_iff.mpr fun event he => ?_
    obtain ⟨a, -, ha⟩ := List.mem_flatMap.mp he
    cases hr : a.replaced with
    | none =>
      obtain rfl : event = .assigned a := by simpa [assignmentEvents, hr] using ha
      rfl
    | some old =>
      rcases List.mem_cons.mp ha with rfl | ha
      · rfl
      · obtain rfl : event = _ := by simpa [hr] using ha
        rfl

theorem tryLine_does (line : String) :
    ∃ assigned, LineCompletes s.env line assigned ∧ (tryLine line s).Does s assigned [] := by
  cases h : parse (scan line).items with
  | error e =>
    refine ⟨[], .unparsed h, ?_⟩
    simp only [tryLine, h]
    refine .quiet_bind (emit_does (by simp)) (.quiet_bind (reportAll_does _)
      (.quiet_bind (emit_does (by simp)) ?_))
    exact (log_does _).quiet_bind (pure_does _)
  | ok p =>
    obtain ⟨front, hitems, hfront⟩ := Grammar.exists_front_of_parse h
    refine ⟨_, .parsed hitems h hfront, ?_⟩
    rw [StackMachine.assigned_run_code]
    simp only [tryLine, h]
    refine .quiet_bind (emit_does (by simp)) (.quiet_bind (reportAll_does _)
      (.quiet_bind (emit_does (by simp)) (.quiet_bind (emit_does ?_) (.bind_quiet ?_ ?_))))
    · cases hi : p.ignored <;> simp [parsedEvents, hi]
    · rw [← (reportAll_does (s := s) ((scan line).unknown.map .unknownCharacter)).env_eq]
      exact evaluate_does p.expr
    · intro result s'
      cases result with
      | error err => exact pure_does _
      | ok v => exact (log_does _).quiet_bind (pure_does _)

lemma valueOrZero_does (line : String) :
    ∃ assigned, LineCompletes s.env line assigned ∧ (valueOrZero line s).Does s assigned [] := by
  obtain ⟨assigned, hline, hdoes⟩ := tryLine_does (s := s) line
  refine ⟨assigned, hline, hdoes.bind_quiet fun result s' => ?_⟩
  cases result with
  | ok v => exact pure_does v
  | error e => exact (log_does _).quiet_bind ((report_does _).quiet_bind (pure_does _))

lemma respond_does {line : String} (h : isExit line = false) :
    ∃ assigned, LineCompletes s.env line assigned ∧ (respond line s).Does s assigned
      [((valueOrZero line s).session.print.send (display (valueOrZero line s).value)).1] := by
  obtain ⟨assigned, hline, hdoes⟩ := valueOrZero_does (s := s) line
  refine ⟨assigned, hline, ?_⟩
  rw [respond, if_neg (by simp [h]), ← List.append_nil assigned]
  refine .bind hdoes (.bind_quiet (printText_does _) fun result s' => ?_)
  cases result with
  | error fault => exact pure_does _
  | ok _ => exact pure_does _

end Session

/-- How far `lines` are run, the first of them being line `n`: to their end, to a line that cannot
be read, or to a line whose result was not taken whole by the print channel. Before that everything
offered was taken. -/
inductive Reaches (n : Nat) (lines : List (Except Fault String)) (reached : List String)
    (offered : List Delivery) : Prop
  | toEnd (parts : lines = reached.map .ok) (taken : ∀ d ∈ offered, d.complete = true)
  | toUnreadable {fault : Fault} {after : List (Except Fault String)}
      (parts : lines = reached.map .ok ++ .error fault :: after)
      (taken : ∀ d ∈ offered, d.complete = true)
  | toRefused (before : List String) (line : String) (after : List (Except Fault String))
      (early : List Delivery) (d : Delivery) (v : Float) (parts : lines = reached.map .ok ++ after)
      (last : reached = before ++ [line]) (evaluated : isSkipped line = false)
      (offers : offered = early ++ [d]) (taken : ∀ d ∈ early, d.complete = true)
      (result : d.line = Session.resultLine (n + before.length) v) (refused : d.complete = false)

lemma Reaches.cons {n : Nat} {rest : List (Except Fault String)} {reached : List String}
    {offered : List Delivery} (h : Reaches (n + 1) rest reached offered) (line : String)
    {first : List Delivery} (hfirst : ∀ d ∈ first, d.complete = true) :
    Reaches n (.ok line :: rest) (line :: reached) (first ++ offered) := by
  cases h with
  | toEnd parts taken =>
    exact .toEnd (congrArg (.ok line :: ·) parts) (List.forall_mem_append.mpr ⟨hfirst, taken⟩)
  | toUnreadable parts taken =>
    exact .toUnreadable (congrArg (.ok line :: ·) parts)
      (List.forall_mem_append.mpr ⟨hfirst, taken⟩)
  | toRefused before last after early d v parts hlast evaluated offers taken result refused =>
    have hn : n + 1 + before.length = n + (line :: before).length := by
      rw [List.length_cons]
      omega
    rw [hn] at result
    refine .toRefused (line :: before) last after (first ++ early) d v
      (congrArg (.ok line :: ·) parts) (congrArg (line :: ·) hlast) evaluated ?_
      (List.forall_mem_append.mpr ⟨hfirst, taken⟩) result refused
    rw [offers, List.append_assoc]

def unskipped (lines : List String) : List String := lines.filter fun line => !isSkipped line

lemma unskipped_cons_of_isSkipped {line : String} (h : isSkipped line = true)
    (lines : List String) : unskipped (line :: lines) = unskipped lines :=
  List.filter_cons_of_neg (by simp [h])

lemma unskipped_cons {line : String} (h : isSkipped line = false) (lines : List String) :
    unskipped (line :: lines) = line :: unskipped lines :=
  List.filter_cons_of_pos (by simp [h])

namespace Session

/-- A step does what running `lines` does, the first of them being line `n`: it evaluates those that
are reached and not skipped, and nothing else. -/
def RunsLines {α : Type} (n : Nat) (lines : List (Except Fault String)) (s : Session)
    (t : Step α) : Prop :=
  ∃ reached assigned offered, Reaches n lines reached offered ∧
    Completes s.env (unskipped reached) assigned ∧ t.Does s assigned offered

section RunsLines
variable {α : Type} {n : Nat} {line : String} {rest : List (Except Fault String)} {t : Step α}

lemma RunsLines.skipped (h : RunsLines (n + 1) rest s t) (hskip : isSkipped line = true) :
    RunsLines n (.ok line :: rest) s t := by
  obtain ⟨reached, assigned, offered, hreach, hcomplete, hdoes⟩ := h
  refine ⟨line :: reached, assigned, offered, hreach.cons line (List.forall_mem_nil _), ?_, hdoes⟩
  rwa [unskipped_cons_of_isSkipped hskip]

lemma RunsLines.evaluated {s' : Session} {t' : Step α} {first : List Assignment}
    {early : List Delivery} (h : RunsLines (n + 1) rest s' t') (hskip : isSkipped line = false)
    (hline : LineCompletes s.env line first) (henv : s'.env = s.env.replay first)
    (hearly : ∀ d ∈ early, d.complete = true)
    (hwhole : ∀ next late, t'.Does s' next late → t.Does s (first ++ next) (early ++ late)) :
    RunsLines n (.ok line :: rest) s t := by
  obtain ⟨reached, next, late, hreach, hcomplete, hdoes⟩ := h
  refine ⟨line :: reached, first ++ next, early ++ late, hreach.cons line hearly, ?_,
    hwhole next late hdoes⟩
  rw [unskipped_cons hskip]
  rw [henv] at hcomplete
  exact .cons hline hcomplete

end RunsLines

theorem runLines_does (n : Nat) (lines : List (Except Fault String)) (s : Session) :
    RunsLines n lines s (runLines n lines s) := by
  induction lines generalizing n s with
  | nil => exact ⟨[], [], [], .toEnd rfl (List.forall_mem_nil _), .nil, pure_does _⟩
  | cons head rest ih =>
    cases head with
    | error fault =>
      refine ⟨[], [], [], .toUnreadable rfl (List.forall_mem_nil _), .nil, ?_⟩
      exact (report_does _).quiet_bind (pure_does _)
    | ok line =>
      rw [runLines]
      -- Only a refused result ends the run here; the other cases go on with the rest.
      cases hskip : isSkipped line with
      | true =>
        obtain ⟨reached, assigned, offered, hreach, hcomplete, hdoes⟩ := ih (n + 1) s
        exact RunsLines.skipped ⟨reached, assigned, offered, hreach, hcomplete, hdoes.map _⟩ hskip
      | false =>
        rw [if_neg Bool.false_ne_true]
        obtain ⟨first, hline, hfirst⟩ := tryLine_does (s := s) line
        cases hv : (tryLine line s).value with
        | error e =>
          have hreport := report_does (s := (tryLine line s).session) (.failedAt n e)
          refine (ih (n + 1) _).evaluated hskip hline (hreport.env_eq.trans hfirst.env)
            (List.forall_mem_nil _) fun next late hnext => ?_
          refine .silent_bind hv hfirst ?_
          exact (log_does _).quiet_bind (hreport.quiet_bind (hnext.map _))
        | ok v =>
          have hprint := printText_does (s := (tryLine line s).session) (resultLine n v)
          cases hd : ((tryLine line s).session.print.send (resultLine n v)).1.complete with
          | true =>
            refine (ih (n + 1) _).evaluated hskip hline (hprint.env_eq.trans hfirst.env)
              (List.forall_mem_singleton.mpr hd) fun next late hnext => ?_
            refine .silent_bind hv hfirst (.bind_of_value (printText_value_ok hd) hprint ?_)
            exact hnext.map _
          | false =>
            have hstop : Reaches n (.ok line :: rest) [line]
                [((tryLine line s).session.print.send (resultLine n v)).1] :=
              .toRefused [] line rest [] _ v rfl rfl hskip rfl (List.forall_mem_nil _)
                (Channel.send_line _ _) hd
            refine ⟨[line], first, _, hstop, ?_, ?_⟩
            · rw [unskipped_cons hskip]
              exact .single hline
            · rw [← List.append_nil first]
              refine .silent_bind hv hfirst ?_
              exact .bind_of_value (printText_value_error hd) hprint (pure_does _)

end Session

end LineCalculator
