import LineCalculator.Proofs.Session.Transcript

/-!
# The run of a file

A run is described line by line: which lines are skipped, what the others come to with the variables
that the lines before them leave, and what is written for each. It ends with the lines, or at the
first line that cannot be read. `runLines_accounts` says that the run of a session with working
channels is just that.
-/
namespace LineCalculator

/-- The lines before the first one that cannot be read. -/
def readable : List (Except Fault String) → List String
  | .ok line :: rest => line :: readable rest
  | _ => []

def firstFault? : List (Except Fault String) → Option Fault
  | [] => none
  | .error fault :: _ => some fault
  | .ok _ :: rest => firstFault? rest

lemma readable_append (lines : List String) (more : List (Except Fault String)) :
    readable (lines.map .ok ++ more) = lines ++ readable more := by
  induction lines with
  | nil => rfl
  | cons line lines ih => rw [List.map_cons, List.cons_append, readable, ih, List.cons_append]

lemma firstFault?_append (lines : List String) (more : List (Except Fault String)) :
    firstFault? (lines.map .ok ++ more) = firstFault? more := by
  induction lines with
  | nil => rfl
  | cons line lines ih => rw [List.map_cons, List.cons_append, firstFault?, ih]

@[simp] lemma readable_map_ok (lines : List String) : readable (lines.map .ok) = lines := by
  simpa [readable] using readable_append lines []

@[simp] lemma firstFault?_map_ok (lines : List String) : firstFault? (lines.map .ok) = none := by
  simpa [firstFault?] using firstFault?_append lines []

/-- What the lines of a file come to, each with the variables that the lines before it leave. A line
that is skipped comes to nothing. -/
def fileResults (env : Environment) (lines : List String) : List (Option LineResult) :=
  lines.mapIdx fun i line =>
    if isSkipped line then none
    else some ⟨line, (lineOutcome (envAfter env (unskipped (lines.take i))) line).1⟩

section FileResults
variable {env : Environment} {line : String}

@[simp] lemma length_fileResults (env : Environment) (lines : List String) :
    (fileResults env lines).length = lines.length := List.length_mapIdx

lemma fileResults_cons_of_isSkipped (h : isSkipped line = true) (lines : List String) :
    fileResults env (line :: lines) = none :: fileResults env lines := by
  rw [fileResults, List.mapIdx_cons, if_pos h]
  simp only [List.take_succ_cons, unskipped_cons_of_isSkipped h]
  rfl

lemma fileResults_cons (h : isSkipped line = false) (lines : List String) :
    fileResults env (line :: lines) =
      some ⟨line, (lineOutcome env line).1⟩ :: fileResults (lineOutcome env line).2 lines := by
  rw [fileResults, List.mapIdx_cons, if_neg (by simp [h])]
  simp only [List.take_succ_cons, unskipped_cons h]
  rfl

lemma fileResults_append (env : Environment) (lines more : List String) :
    fileResults env (lines ++ more) =
      fileResults env lines ++ fileResults (envAfter env (unskipped lines)) more := by
  induction lines generalizing env with
  | nil => rfl
  | cons line lines ih =>
    cases h : isSkipped line with
    | true =>
      rw [List.cons_append, fileResults_cons_of_isSkipped h, fileResults_cons_of_isSkipped h,
        unskipped_cons_of_isSkipped h, ih, List.cons_append]
    | false =>
      rw [List.cons_append, fileResults_cons h, fileResults_cons h, unskipped_cons h, ih,
        List.cons_append]
      rfl

lemma fileResults_eq_map_some {lines : List String}
    (h : ∀ line ∈ lines, isSkipped line = false) (env : Environment) :
    fileResults env lines = (lineResults env lines).map some := by
  induction lines generalizing env with
  | nil => rfl
  | cons line lines ih =>
    obtain ⟨hline, hlines⟩ := List.forall_mem_cons.mp h
    rw [fileResults_cons hline, ih hlines, lineResults, List.map_cons]

end FileResults

namespace Summary

@[simp] lemma add_evaluated (a b : Summary) : (a + b).evaluated = a.evaluated + b.evaluated := rfl
@[simp] lemma add_skipped (a b : Summary) : (a + b).skipped = a.skipped + b.skipped := rfl
@[simp] lemma add_failed (a b : Summary) : (a + b).failed = a.failed + b.failed := rfl

def ofResult : Option LineResult → Summary
  | none => { skipped := 1 }
  | some ⟨_, .ok _⟩ => { evaluated := 1 }
  | some ⟨_, .error _⟩ => { failed := 1 }

def ofResults : List (Option LineResult) → Summary
  | [] => {}
  | r :: rs => ofResult r + ofResults rs

lemma ofResults_append (rs rs' : List (Option LineResult)) :
    ofResults (rs ++ rs') = ofResults rs + ofResults rs' := by
  have hassoc : ∀ a b c : Summary, a + b + c = a + (b + c) := fun a b c => by
    rw [Summary.mk.injEq]
    exact ⟨Nat.add_assoc _ _ _, Nat.add_assoc _ _ _, Nat.add_assoc _ _ _⟩
  have hzero : ∀ a : Summary, ({} : Summary) + a = a := fun a => by
    rw [Summary.mk.injEq]
    exact ⟨Nat.zero_add _, Nat.zero_add _, Nat.zero_add _⟩
  induction rs with
  | nil => exact (hzero _).symm
  | cons r rs ih => rw [List.cons_append, ofResults, ofResults, ih, hassoc]

end Summary

/-- What is printed for results, the first of them being that of line `n`. -/
def filePrinted (n : Nat) (rs : List (Option LineResult)) : List String :=
  (rs.zipIdx n).flatMap fun p => p.1.elim [] (LineResult.printedAt p.2)

def fileReported (n : Nat) (rs : List (Option LineResult)) : List Diagnostic :=
  (rs.zipIdx n).flatMap fun p => p.1.elim [] (LineResult.reports (.failedAt p.2))

section Written
variable (n : Nat) (r : Option LineResult) (rs rs' : List (Option LineResult))

lemma filePrinted_cons :
    filePrinted n (r :: rs) = r.elim [] (LineResult.printedAt n) ++ filePrinted (n + 1) rs := by
  rw [filePrinted, List.zipIdx_cons, List.flatMap_cons]
  rfl

lemma fileReported_cons :
    fileReported n (r :: rs) =
      r.elim [] (LineResult.reports (.failedAt n)) ++ fileReported (n + 1) rs := by
  rw [fileReported, List.zipIdx_cons, List.flatMap_cons]
  rfl

lemma filePrinted_append :
    filePrinted n (rs ++ rs') = filePrinted n rs ++ filePrinted (n + rs.length) rs' := by
  rw [filePrinted, List.zipIdx_append, List.flatMap_append]
  rfl

lemma fileReported_append :
    fileReported n (rs ++ rs') = fileReported n rs ++ fileReported (n + rs.length) rs' := by
  rw [fileReported, List.zipIdx_append, List.flatMap_append]
  rfl

end Written

/-- What is reported in a run of lines, the first of them being line `n`: what is reported for the
lines that can be read, and last the line that cannot, if there is one. -/
def runReported (n : Nat) (env : Environment) (lines : List (Except Fault String)) :
    List Diagnostic :=
  fileReported n (fileResults env (readable lines)) ++
    (firstFault? lines).toList.map (.unreadable (n + (readable lines).length))

section RunReported
variable {env : Environment} {line : String}

lemma runReported_cons_of_isSkipped (h : isSkipped line = true) (n : Nat)
    (lines : List (Except Fault String)) :
    runReported n env (.ok line :: lines) = runReported (n + 1) env lines := by
  rw [runReported, readable, fileResults_cons_of_isSkipped h, fileReported_cons, firstFault?,
    List.length_cons, ← Nat.add_assoc, Nat.add_right_comm]
  rfl

lemma runReported_cons (h : isSkipped line = false) (n : Nat)
    (lines : List (Except Fault String)) :
    runReported n env (.ok line :: lines) =
      LineResult.reports (.failedAt n) ⟨line, (lineOutcome env line).1⟩ ++
        runReported (n + 1) (lineOutcome env line).2 lines := by
  rw [runReported, readable, fileResults_cons h, fileReported_cons, firstFault?, List.length_cons,
    ← Nat.add_assoc, Nat.add_right_comm, List.append_assoc]
  rfl

lemma runReported_append (n : Nat) (env : Environment) (lines : List String)
    (more : List (Except Fault String)) :
    runReported n env (lines.map .ok ++ more) =
      runReported n env (lines.map .ok) ++
        runReported (n + lines.length) (envAfter env (unskipped lines)) more := by
  have hfront : runReported n env (lines.map .ok) = fileReported n (fileResults env lines) := by
    rw [runReported, readable_map_ok, firstFault?_map_ok]
    exact List.append_nil _
  rw [hfront, runReported, runReported, readable_append, firstFault?_append, fileResults_append,
    fileReported_append, length_fileResults, List.length_append, List.append_assoc, Nat.add_assoc]

end RunReported

/-- The run of `lines`, the first of them being line `n`, with the variables `start`: the summary of
what the lines come to, the variables that they leave, and what is written. -/
structure Step.Accounts (t : Step (Except Fault Summary)) (n : Nat) (start : Environment)
    (lines : List (Except Fault String)) : Prop where
  value : t.value = .ok (.ofResults (fileResults start (readable lines)))
  env : t.session.env = envAfter start (unskipped (readable lines))
  writes : t.Writes (filePrinted n (fileResults start (readable lines))) (runReported n start lines)

lemma Step.Accounts.of_fileResults {t : Step (Except Fault Summary)} {n : Nat}
    {start : Environment} {lines : List (Except Fault String)} {rs : List (Option LineResult)}
    (h : t.Accounts n start lines) (hrs : fileResults start (readable lines) = rs) :
    t.value = .ok (.ofResults rs) ∧ t.printBytes = (filePrinted n rs).flatMap lineBytes ∧
      t.errorBytes = (fileReported n rs ++ (firstFault? lines).toList.map
        (Diagnostic.unreadable (n + (readable lines).length))).flatMap
          fun d => lineBytes d.message := by
  subst hrs
  exact ⟨h.value, h.writes.print, h.writes.error⟩

namespace Session
variable {s : Session} {n : Nat} {line : String} {rest : List (Except Fault String)}

lemma accounts_skipped (h : isSkipped line = true)
    (hrest : (runLines (n + 1) rest s).Accounts (n + 1) s.env rest) :
    (runLines n (.ok line :: rest) s).Accounts n s.env (.ok line :: rest) := by
  rw [runLines, if_pos h]
  refine ⟨?_, ?_, ?_⟩
  · rw [Action.map_run, hrest.value, readable, fileResults_cons_of_isSkipped h]
    rfl
  · rw [readable, unskipped_cons_of_isSkipped h]
    exact hrest.env
  · rw [readable, fileResults_cons_of_isSkipped h, filePrinted_cons,
      runReported_cons_of_isSkipped h]
    exact hrest.writes.map _

lemma accounts_evaluated (h : s.Works) (hskip : isSkipped line = false) {v : Float}
    (hr : (lineOutcome s.env line).1 = .ok v)
    (hrest : ∀ s' : Session, s'.Works →
      (runLines (n + 1) rest s').Accounts (n + 1) s'.env rest) :
    (runLines n (.ok line :: rest) s).Accounts n s.env (.ok line :: rest) := by
  have hline := tryLine_writes h line
  have hvalue := (tryLine_value line s).trans hr
  have hprinted := printText_value hline.works (resultLine n v)
  have hprint := printText_writes hline.works (resultLine n v)
  have hlater := hrest _ hprint.works
  rw [(printText_does _).env_eq, tryLine_env] at hlater
  rw [runLines, if_neg (by simp [hskip])]
  refine ⟨?_, ?_, ?_⟩
  · simp only [Action.bind_run, hvalue, hprinted, Action.map_run, hlater.value, readable,
      fileResults_cons hskip, hr]
    rfl
  · simp only [Action.bind_run, hvalue, hprinted, Action.map_run, hlater.env, readable,
      unskipped_cons hskip]
    rfl
  · rw [readable, fileResults_cons hskip, filePrinted_cons, runReported_cons hskip, hr,
      LineResult.reports, List.append_nil]
    change Step.Writes _ ([] ++ ([resultLine n v] ++ _)) (_ ++ ([] ++ _))
    exact .bind_of_value hvalue hline (.bind_of_value hprinted hprint (hlater.writes.map _))

lemma accounts_failed (h : s.Works) (hskip : isSkipped line = false) {e : LineError}
    (hr : (lineOutcome s.env line).1 = .error e)
    (hrest : ∀ s' : Session, s'.Works →
      (runLines (n + 1) rest s').Accounts (n + 1) s'.env rest) :
    (runLines n (.ok line :: rest) s).Accounts n s.env (.ok line :: rest) := by
  have hline := tryLine_writes h line
  have hvalue := (tryLine_value line s).trans hr
  have hreport := report_writes hline.works (.failedAt n e)
  have hlater := hrest _ hreport.works
  rw [(report_does _).env_eq, tryLine_env] at hlater
  rw [runLines, if_neg (by simp [hskip])]
  refine ⟨?_, ?_, ?_⟩
  · simp only [Action.bind_run, hvalue, log, emit, Action.map_run, hlater.value, readable,
      fileResults_cons hskip, hr]
    rfl
  · simp only [Action.bind_run, hvalue, log, emit, Action.map_run, hlater.env, readable,
      unskipped_cons hskip]
    rfl
  · rw [readable, fileResults_cons hskip, filePrinted_cons, runReported_cons hskip, hr,
      LineResult.reports, List.append_assoc]
    refine .bind_of_value hvalue hline ?_
    exact (log_writes hline.works _).silent_bind (hreport.bind (hlater.writes.map _))

/-- With working channels a run is what its lines come to, each with the variables that those before
it leave. -/
theorem runLines_accounts (h : s.Works) (n : Nat) (lines : List (Except Fault String)) :
    (runLines n lines s).Accounts n s.env lines := by
  induction lines generalizing s n with
  | nil => exact ⟨rfl, rfl, pure_writes h _⟩
  | cons line rest ih =>
    cases line with
    | error fault =>
      exact ⟨rfl, (report_does _).env_eq,
        (report_writes h _).bind_silent fun _ s' h' => pure_writes h' _⟩
    | ok line =>
      cases hskip : isSkipped line with
      | true => exact accounts_skipped hskip (ih h (n + 1))
      | false =>
        cases hr : (lineOutcome s.env line).1 with
        | ok v => exact accounts_evaluated h hskip hr fun s' h' => ih h' (n + 1)
        | error e => exact accounts_failed h hskip hr fun s' h' => ih h' (n + 1)

theorem runLines_writes {lines : List String} (h : s.Works)
    (hskip : ∀ line ∈ lines, isSkipped line = false) (n : Nat) :
    (∃ summary, (runLines n (lines.map .ok) s).value = .ok summary) ∧
    (runLines n (lines.map .ok) s).session.env = envAfter s.env lines ∧
    (runLines n (lines.map .ok) s).Writes
      (((lineResults s.env lines).zipIdx n).flatMap fun p => p.1.printedAt p.2)
      (((lineResults s.env lines).zipIdx n).flatMap fun p => p.1.reports (.failedAt p.2)) := by
  have hall : unskipped lines = lines := List.filter_eq_self.mpr fun line hline => by
    simp [hskip line hline]
  obtain ⟨hvalue, henv, hwrites⟩ := runLines_accounts h n (lines.map .ok)
  rw [runReported, firstFault?_map_ok] at hwrites
  rw [readable_map_ok] at henv hwrites
  rw [fileResults_eq_map_some hskip, filePrinted, fileReported, List.zipIdx_map] at hwrites
  simp only [List.flatMap_map, Option.toList_none, List.map_nil, List.append_nil] at hwrites
  exact ⟨⟨_, hvalue⟩, henv.trans (by rw [hall]), hwrites⟩

end Session

end LineCalculator
