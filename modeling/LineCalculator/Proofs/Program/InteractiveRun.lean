import LineCalculator.Program
import LineCalculator.Proofs.Session.Accounting
import LineCalculator.Proofs.Session.Composition
import LineCalculator.Proofs.Session.Loop

/-!
# The whole interactive run

The standard output of a run is what the file before the loop prints, the greeting, and one answer
for each line of the standard input up to the stopping point of the loop. The stopping point decides
about the code of the run, and nothing behind it can be seen in the outcome.
-/
namespace LineCalculator

/-- An operation that does not ask the user for a line. -/
def Action.Unprompted {α : Type} (x : Action α) : Prop := ∀ s : Session, .prompted ∉ (x s).events

namespace Session

lemma printText_unprompted (line : String) : (printText line).Unprompted := by
  intro s
  simp [printText]

lemma report_unprompted (d : Diagnostic) : (report d).Unprompted := by
  intro s
  unfold report
  dsimp only
  split <;> simp

lemma evaluate_unprompted (e : Expr) : (evaluate e).Unprompted := by
  intro s hmem
  obtain ⟨a, -, ha⟩ := List.mem_flatMap.mp hmem
  cases hr : a.replaced <;> simp [assignmentEvents, hr] at ha

lemma compositional_unprompted : Compositional fun _ x => x.Unprompted where
  pure _ _ := List.not_mem_nil
  bind hx hf s := by
    rw [Action.bind_run, List.mem_append, not_or]
    exact ⟨hx s, hf _ _⟩
  emit h _ hmem := by
    obtain ⟨r, hr⟩ := h _ hmem
    exact absurd hr nofun
  report := report_unprompted
  evaluate := evaluate_unprompted

lemma respondAll_unprompted (lines : List (Except Fault String)) :
    (respondAll false lines).Unprompted := by
  have h := compositional_unprompted
  have hawait : (await false).Unprompted := h.emit (by simp)
  induction lines with
  | nil => exact h.bind hawait fun _ => h.pure _
  | cons head rest ih =>
    cases head with
    | error fault => exact h.bind hawait fun _ => h.pure _
    | ok line =>
      refine h.bind hawait fun _ =>
        h.bind (h.respond printText_unprompted line) fun result => ?_
      rcases result with fault | flow
      · exact h.pure _
      · cases flow with
        | stop => exact h.pure _
        | goOn => exact ih

lemma runPath_works {s : Session} (h : s.Works) (path : String) (opened : Except Fault Input) :
    (∃ summary, (runPath path opened s).value = .ok summary) ∧
      (runPath path opened s).session.Works := by
  cases opened with
  | error fault => exact ⟨⟨none, rfl⟩, (report_writes h (.cannotOpen path)).works⟩
  | ok input =>
    have hrun := runLines_accounts h 1 input.lines
    simp only [runPath, Action.bind_run, log, emit, runInput, hrun.value, Action.pure_run]
    exact ⟨⟨_, rfl⟩, hrun.writes.works⟩

lemma printBytes_runPath_error (path : String) (fault : Fault) {s : Session} (h : s.Works) :
    (runPath path (.error fault) s).printBytes = [] := by
  have hwrites : (runPath path (.error fault) s).Writes [] [.cannotOpen path] := by
    refine .silent_bind (log_writes h _) (.silent_bind (log_writes h _) ?_)
    exact (report_writes h _).bind_silent fun _ s' h' => pure_writes h' _
  exact hwrites.print

end Session

namespace Input
variable {bytes : List UInt8} {i : Nat}

lemma getElem?_lines_content (bytes : List UInt8) (i : Nat) :
    (content bytes).lines[i]? = (Text.rawLines bytes)[i]?.map fun raw =>
      (Text.decode raw).map fun text => String.ofList (Text.dropLineEnd text.toList) := by
  rw [lines, rawLines, List.map_map, List.getElem?_map]
  rfl

lemma exists_isUtf8_of_lines {line : String} (h : (content bytes).lines[i]? = some (.ok line)) :
    ∃ raw, (Text.rawLines bytes)[i]? = some raw ∧ Text.IsUtf8 raw := by
  rw [getElem?_lines_content, Option.map_eq_some_iff] at h
  obtain ⟨raw, hraw, hline⟩ := h
  refine ⟨raw, hraw, ?_⟩
  by_contra hutf8
  rw [Text.decode_of_not_isUtf8 hutf8] at hline
  exact absurd hline nofun

lemma exists_not_isUtf8_of_lines {fault : Fault}
    (h : (content bytes).lines[i]? = some (.error fault)) :
    fault = .invalidText ∧ ∃ raw, (Text.rawLines bytes)[i]? = some raw ∧ ¬ Text.IsUtf8 raw := by
  rw [getElem?_lines_content, Option.map_eq_some_iff] at h
  obtain ⟨raw, hraw, hline⟩ := h
  by_cases hutf8 : Text.IsUtf8 raw
  · obtain ⟨text, htext⟩ := Text.exists_decode_of_isUtf8 hutf8
    rw [htext] at hline
    exact absurd hline nofun
  · rw [Text.decode_of_not_isUtf8 hutf8] at hline
    exact ⟨(Except.error.inj hline).symm, raw, hraw, hutf8⟩

/-- Lines typed without a backspace are read as they are. -/
theorem typedLines_content (h : 0x08 ∉ bytes) :
    (content bytes).typedLines = (content bytes).lines := by
  refine (List.map_congr_left fun line hline => ?_).trans (List.map_id _)
  rw [lines, rawLines, List.map_map] at hline
  obtain ⟨raw, hraw, rfl⟩ := List.mem_map.mp hline
  cases hdecode : Text.decode raw with
  | error fault => simp [hdecode, Except.map, Except.bind]
  | ok text =>
    -- A backspace in the line would be a byte of the content.
    have hclean : Text.backspace ∉ Text.dropLineEnd text.toList := by
      intro hmem
      have hbyte : 0x08 ∈ Text.bytes text.toList :=
        List.mem_flatMap.mpr ⟨Text.backspace, Text.dropLineEnd_subset _ hmem, by decide⟩
      rw [Text.bytes_of_decode hdecode] at hbyte
      rw [← Text.flatten_rawLines bytes] at h
      exact h (List.mem_flatten.mpr ⟨raw, hraw, hbyte⟩)
    simp [hdecode, Except.map, Except.bind, typedText, Text.afterTyping_eq_some hclean]

end Input

namespace Program

lemma flatMap_stdoutBytes {events : List Event} (h : .prompted ∉ events) :
    events.flatMap stdoutBytes = events.flatMap Event.printBytes := by
  refine List.flatMap_congr fun e he => ?_
  cases e with
  | prompted => exact absurd he h
  | _ => rfl

def fileRun (inv : Invocation) : Option String → Step (Except Fault (Option Summary))
  | none => ⟨.ok none, {}, []⟩
  | some path => Session.runPath path (inv.openPath path) {}

lemma works_new : ({} : Session).Works := ⟨fun _ _ => rfl, fun _ _ => rfl⟩

section Run
variable {inv : Invocation} {file : Option String}

lemma works_fileRun : (fileRun inv file).session.Works := by
  cases file with
  | none => exact works_new
  | some path => exact (Session.runPath_works works_new path _).2

lemma prepare_run (hmode : Mode.ofArgs inv.args = file.elim .interactive .fileThenInteractive) :
    (prepare inv {}).value = .ok true ∧ (prepare inv {}).session = (fileRun inv file).session ∧
      (prepare inv {}).printBytes = (fileRun inv file).printBytes := by
  have hsettings : (Session.emit ((loaded inv).2.toList.map fun e =>
      .logged (.settingsFailed e.message)) {}).printBytes = [] :=
    (Session.emit_writes works_new (by simp)).print
  cases file with
  | none =>
    simp only [prepare, hmode, Option.elim_none]
    refine ⟨rfl, rfl, ?_⟩
    rw [Step.printBytes_bind, hsettings]
    rfl
  | some path =>
    obtain ⟨summary, hvalue⟩ := (Session.runPath_works works_new path (inv.openPath path)).1
    simp only [prepare, hmode, Option.elim_some]
    refine ⟨?_, rfl, ?_⟩
    · rw [Action.bind_run, Action.bind_run, Action.map_run]
      exact congrArg (Except.map fun _ => true) hvalue
    · rw [Step.printBytes_bind, hsettings]
      rfl

lemma session_run {inv : Invocation} {file : Option String}
    (hmode : Mode.ofArgs inv.args = file.elim .interactive .fileThenInteractive) :
    (session inv {}).value = loopEnd inv.input.typedLines ∧
    (session inv {}).printBytes = (fileRun inv file).printBytes ++ lineBytes banner ++
      ((lineResults (fileRun inv file).session.env (answered inv.input.typedLines)).map
        LineResult.answer).flatMap lineBytes := by
  obtain ⟨hvalue, hsession, hbytes⟩ := prepare_run hmode
  have hworks : (fileRun inv file).session.Works := works_fileRun
  have hgreet : (Session.greet (fileRun inv file).session).Writes [banner] [] :=
    (Session.log_writes hworks _).silent_bind (Session.printText_writes hworks _)
  have hgreeted : (Session.greet (fileRun inv file).session).value = .ok () :=
    Session.printText_value hworks banner
  have henv : (Session.greet (fileRun inv file).session).session.env =
    (fileRun inv file).session.env := rfl
  obtain ⟨hend, -, hloop⟩ :=
    Session.respondAll_writes hgreet.works (prompts inv) inv.input.typedLines
  rw [henv] at hloop
  constructor
  · simp only [session, Action.bind_run, hvalue, hsession, Session.interact, hgreeted, hend]
  · rw [session, Step.printBytes_bind, hvalue, hsession, hbytes, List.append_assoc]
    refine congrArg (_ ++ ·) ?_
    rw [Session.interact, Step.printBytes_bind, hgreet.print, hgreeted, hloop.print,
      List.flatMap_singleton]

lemma stdout_run (hprompt : prompts inv = false) :
    (run inv).stdout = (session inv {}).printBytes := by
  have h := Session.compositional_unprompted
  have hprint := Session.printText_unprompted
  have hprepare : (prepare inv).Unprompted := by
    refine h.bind (h.emit (by simp)) fun _ => h.bind (h.log _) fun _ => ?_
    cases Mode.ofArgs inv.args with
    | interactive => exact h.pure _
    | help => exact h.map (hprint usage) _
    | file path => exact h.map (h.runPath hprint path _) _
    | fileThenInteractive path => exact h.map (h.runPath hprint path _) _
  have hsession : (session inv).Unprompted := by
    refine h.bind hprepare fun result => ?_
    rcases result with fault | _ | _
    · exact h.pure _
    · exact h.pure _
    · refine h.bind (h.bind (h.log _) fun _ => hprint banner) fun greeted => ?_
      cases greeted with
      | error fault => exact h.pure _
      | ok _ =>
        rw [hprompt]
        exact Session.respondAll_unprompted _
  exact flatMap_stdoutBytes (hsession {})

/-- Inputs that agree as far as the loop looks at them come to the same outcome. -/
theorem run_congr {other : Input}
    (h : other.typedLines.take ((answered inv.input.typedLines).length + 1) =
      inv.input.typedLines.take ((answered inv.input.typedLines).length + 1)) :
    run { inv with input := other } = run inv := by
  have hlength := length_answered_take_le inv.input.typedLines
    ((answered inv.input.typedLines).length + 1)
  have hloop := Session.respondAll_take (prompts inv) hlength
  rw [← h] at hlength hloop
  have hother := (Session.respondAll_take (prompts inv) hlength).trans hloop.symm
  have hinteract : Session.interact (prompts { inv with input := other }) other.typedLines =
      Session.interact (prompts inv) inv.input.typedLines := by
    change Session.interact (prompts inv) other.typedLines = _
    rw [Session.interact, Session.interact, hother]
  have hsession : session { inv with input := other } = session inv := by
    unfold session
    rw [hinteract]
    rfl
  unfold run
  rw [hsession]
  rfl

lemma fileRun_unopened (h : ∀ path, file = some path → ∃ fault, inv.openPath path = .error fault) :
    (fileRun inv file).printBytes = [] ∧ (fileRun inv file).session.env = ∅ := by
  cases file with
  | none => exact ⟨rfl, rfl⟩
  | some path =>
    obtain ⟨fault, hfault⟩ := h path rfl
    rw [fileRun, hfault]
    exact ⟨Session.printBytes_runPath_error path fault works_new, rfl⟩

lemma code_of_ok (h : (session inv {}).value = .ok ()) : (run inv).code = 0 := by
  simp only [run, h]

lemma code_of_error {fault : Fault} (h : (session inv {}).value = .error fault) :
    (run inv).code = faultCode fault := by
  simp only [run, h]

lemma code_run {bytes : List UInt8} {before : List String} {stop : Except Fault Unit}
    (hinput : inv.input = .content bytes) (h : StopsAfter before inv.input.lines stop)
    (hvalue : (session inv {}).value = stop) :
    (run inv).code =
      if (Text.rawLines bytes)[before.length]?.any (¬ Text.IsUtf8 ·) then 1 else 0 := by
  have hget := congrArg (fun input : Input => input.lines[before.length]?) hinput
  generalize inv.input.lines = lines at h hget
  cases h with
  | atEnd =>
    have hnone : (Text.rawLines bytes)[before.length]? = none := by
      simpa [Input.getElem?_lines_content] using hget.symm
    rw [code_of_ok hvalue, hnone]
    rfl
  | @atExit line after exit =>
    have hline : (Input.content bytes).lines[before.length]? = some (.ok line) := by
      rw [← hget]
      simp
    obtain ⟨raw, hraw, hutf8⟩ := Input.exists_isUtf8_of_lines hline
    simp [code_of_ok hvalue, hraw, hutf8]
  | @atUnreadable fault after =>
    have hline : (Input.content bytes).lines[before.length]? = some (.error fault) := by
      rw [← hget]
      simp
    obtain ⟨rfl, raw, hraw, hutf8⟩ := Input.exists_not_isUtf8_of_lines hline
    simp [code_of_error hvalue, hraw, hutf8, faultCode]

end Run

/-- The whole interactive run, where the lines of the standard input are read as they are and there
is no prompt. The standard output is what the file prints, the greeting, and one line for each line
of the input before the stopping point: its value with the variables that the file and the lines
before it leave, or zero if it fails. The code is that of the stopping point, and what comes behind
that makes no difference. -/
theorem run_interactive {inv : Invocation} {bytes : List UInt8} {file : Option String}
    (hmode : Mode.ofArgs inv.args = file.elim .interactive .fileThenInteractive)
    (hinput : inv.input = .content bytes) (hread : inv.input.typedLines = inv.input.lines)
    (hprompt : prompts inv = false) :
    let start := fileRun inv file
    let before := answered inv.input.lines
    ∃ (stop : Except Fault Unit) (answers : List String),
      StopsAfter before inv.input.lines stop ∧ (∀ line ∈ before, isExit line = false) ∧
      answers.length = before.length ∧
      (∀ i line, before[i]? = some line → answers[i]? = some (LineResult.answer
        ⟨line, (lineOutcome (envAfter start.session.env (before.take i)) line).1⟩)) ∧
      (∀ answer ∈ answers, '\n' ∉ answer.toList) ∧
      (run inv).stdout = start.printBytes ++ lineBytes banner ++ answers.flatMap lineBytes ∧
      ((∀ path, file = some path → ∃ fault, inv.openPath path = .error fault) →
        start.printBytes = [] ∧ start.session.env = ∅) ∧
      (run inv).code =
        (if (Text.rawLines bytes)[before.length]?.any (¬ Text.IsUtf8 ·) then 1 else 0) ∧
      ∀ other : Input,
        other.typedLines.take (before.length + 1) =
          inv.input.typedLines.take (before.length + 1) →
        run { inv with input := other } = run inv := by
  intro start before
  obtain ⟨hvalue, hbytes⟩ := session_run hmode
  rw [hread] at hvalue hbytes
  have hstops := stopsAfter_answered inv.input.lines
  refine ⟨loopEnd inv.input.lines, (lineResults start.session.env before).map LineResult.answer,
    hstops, fun line => isExit_of_mem_answered, ?_, fun i line hline => ?_, fun answer hmem => ?_,
    (stdout_run hprompt).trans hbytes, fileRun_unopened, ?_, fun other hother => ?_⟩
  · rw [List.length_map, length_lineResults]
  · rw [List.getElem?_map, getElem?_lineResults, hline]
    rfl
  · obtain ⟨r, -, rfl⟩ := List.mem_map.mp hmem
    rcases r with ⟨line, _ | v⟩
    · exact (by decide : '\n' ∉ "0".toList)
    · exact isOneLine_display v
  · exact code_run hinput hstops hvalue
  · refine run_congr ?_
    rwa [hread] at hother ⊢

/-- A file that assigns `x`, and three lines after it: a value, a failure, and a line that is not
UTF-8. A fourth line makes no difference. -/
theorem run_interactive_three :
    let start := ["x * 3", "y / 0"].flatMap lineBytes ++ [0xFF, Text.lineFeed]
    let inv : Invocation := {
      args := ["-i", "a"]
      input := .content (start ++ lineBytes "exit")
      openPath := fun path =>
        if path = "a" then .ok (.content (lineBytes "x = 2")) else .error .notFound
      settings := {} }
    Mode.ofArgs inv.args = (some "a").elim .interactive .fileThenInteractive ∧
      inv.input.typedLines = inv.input.lines ∧ prompts inv = false ∧
      answered inv.input.lines = ["x * 3", "y / 0"] ∧ (run inv).code = 1 ∧
      (∃ answers : List String, answers.length = 2 ∧
        (run inv).stdout = (Session.runPath "a" (inv.openPath "a") {}).printBytes ++
          lineBytes banner ++ answers.flatMap lineBytes) ∧
      run { inv with input := .content start } = run inv := by
  intro start inv
  have hmode : Mode.ofArgs inv.args = (some "a").elim .interactive .fileThenInteractive := by
    decide
  have hread : inv.input.typedLines = inv.input.lines :=
    Input.typedLines_content (by decide +kernel)
  have hprompt : prompts inv = false := by decide +kernel
  have hbefore : answered inv.input.lines = ["x * 3", "y / 0"] := by decide +kernel
  obtain ⟨-, answers, -, -, hlength, -, -, hstdout, -, hcode, hother⟩ :=
    run_interactive hmode rfl hread hprompt
  rw [hbefore] at hlength hcode hother
  refine ⟨hmode, hread, hprompt, hbefore, hcode.trans (by decide +kernel),
    ⟨answers, hlength, hstdout⟩, hother _ (by decide +kernel)⟩

end Program

end LineCalculator
