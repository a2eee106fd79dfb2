import LineCalculator.Proofs.Session.Transcript

/-!
# The interactive loop

The loop answers lines up to its stopping point: the end of the input, the command to exit, or a
line that cannot be read. Each answer is that of the line with the variables that the lines before
it leave, and what comes behind the stopping point is never looked at.
-/
namespace LineCalculator

def answered : List (Except Fault String) → List String
  | .ok line :: rest => if isExit line then [] else line :: answered rest
  | _ => []

/-- How the loop ends: with a fault if it stops at a line that cannot be read. -/
def loopEnd : List (Except Fault String) → Except Fault Unit
  | [] => .ok ()
  | .error fault :: _ => .error fault
  | .ok line :: rest => if isExit line then .ok () else loopEnd rest

section Answered
variable {line : String} {rest : List (Except Fault String)}

lemma answered_cons_of_isExit (h : isExit line = true) : answered (.ok line :: rest) = [] := by
  rw [answered, if_pos h]

lemma answered_cons (h : isExit line = false) :
    answered (.ok line :: rest) = line :: answered rest := by
  rw [answered, if_neg (by simp [h])]

lemma isExit_of_mem_answered {lines : List (Except Fault String)} (h : line ∈ answered lines) :
    isExit line = false := by
  induction lines with
  | nil => exact absurd h List.not_mem_nil
  | cons head lines ih =>
    cases head with
    | error fault => exact absurd h List.not_mem_nil
    | ok first =>
      cases hexit : isExit first with
      | true =>
        rw [answered_cons_of_isExit hexit] at h
        exact absurd h List.not_mem_nil
      | false =>
        rw [answered_cons hexit] at h
        rcases List.mem_cons.mp h with rfl | h
        · exact hexit
        · exact ih h

/-- The answered lines are the first ones, and what comes next decides about the end of the
loop. -/
inductive StopsAfter (before : List String) : List (Except Fault String) → Except Fault Unit → Prop
  | atEnd : StopsAfter before (before.map .ok) (.ok ())
  | atExit {line : String} {after : List (Except Fault String)} (exit : isExit line = true) :
      StopsAfter before (before.map .ok ++ .ok line :: after) (.ok ())
  | atUnreadable {fault : Fault} {after : List (Except Fault String)} :
      StopsAfter before (before.map .ok ++ .error fault :: after) (.error fault)

lemma StopsAfter.cons {before : List String} {lines : List (Except Fault String)}
    {result : Except Fault Unit} (h : StopsAfter before lines result) (line : String) :
    StopsAfter (line :: before) (.ok line :: lines) result := by
  cases h with
  | atEnd => exact .atEnd
  | atExit exit => exact .atExit exit
  | atUnreadable => exact .atUnreadable

theorem stopsAfter_answered (lines : List (Except Fault String)) :
    StopsAfter (answered lines) lines (loopEnd lines) := by
  induction lines with
  | nil => exact .atEnd
  | cons head rest ih =>
    cases head with
    | error fault => exact @StopsAfter.atUnreadable [] fault rest
    | ok line =>
      cases hexit : isExit line with
      | true =>
        rw [answered_cons_of_isExit hexit, loopEnd, if_pos hexit]
        exact @StopsAfter.atExit [] line rest hexit
      | false =>
        rw [answered_cons hexit, loopEnd, if_neg (by simp [hexit])]
        exact ih.cons line

lemma length_answered_take_le (lines : List (Except Fault String)) (k : Nat) :
    (answered (lines.take k)).length ≤ (answered lines).length := by
  induction lines generalizing k with
  | nil => rw [List.take_nil]
  | cons head rest ih =>
    cases k with
    | zero => exact Nat.zero_le _
    | succ k =>
      rw [List.take_succ_cons]
      cases head with
      | error fault => exact Nat.le_refl _
      | ok line =>
        cases hexit : isExit line with
        | true => rw [answered_cons_of_isExit hexit, answered_cons_of_isExit hexit]
        | false =>
          rw [answered_cons hexit, answered_cons hexit]
          exact Nat.succ_le_succ (ih k)

end Answered

section Results

@[simp] lemma length_lineResults (env : Environment) (lines : List String) :
    (lineResults env lines).length = lines.length := by
  induction lines generalizing env with
  | nil => rfl
  | cons line rest ih => rw [lineResults, List.length_cons, ih, List.length_cons]

lemma getElem?_lineResults (env : Environment) (lines : List String) (i : Nat) :
    (lineResults env lines)[i]? =
      lines[i]?.map fun line => ⟨line, (lineOutcome (envAfter env (lines.take i)) line).1⟩ := by
  induction lines generalizing env i with
  | nil => rfl
  | cons line rest ih =>
    cases i with
    | zero => rfl
    | succ i =>
      rw [lineResults, List.getElem?_cons_succ, List.getElem?_cons_succ, ih, List.take_succ_cons]
      rfl

end Results

namespace Session
variable {s : Session}

lemma await_writes (h : s.Works) (prompt : Bool) : (await prompt s).Writes [] [] := by
  refine emit_writes h ?_
  cases prompt
  · simp
  · simp [Event.IsSilent, Event.printBytes, Event.errorBytes]

lemma respond_of_isExit {line : String} (h : isExit line = true) :
    respond line = pure (.ok .stop) := if_pos h

theorem respondAll_writes (h : s.Works) (prompt : Bool) (lines : List (Except Fault String)) :
    (respondAll prompt lines s).value = loopEnd lines ∧
    (respondAll prompt lines s).session.env = envAfter s.env (answered lines) ∧
    (respondAll prompt lines s).Writes
      ((lineResults s.env (answered lines)).map LineResult.answer)
      ((lineResults s.env (answered lines)).flatMap (LineResult.reports .failed)) := by
  induction lines generalizing s with
  | nil => exact ⟨rfl, rfl, (await_writes h prompt).silent_bind (pure_writes h _)⟩
  | cons head rest ih =>
    cases head with
    | error fault => exact ⟨rfl, rfl, (await_writes h prompt).silent_bind (pure_writes h _)⟩
    | ok line =>
      have hawait := await_writes h prompt
      rw [respondAll]
      cases hexit : isExit line with
      | true =>
        rw [respond_of_isExit hexit, answered_cons_of_isExit hexit, loopEnd, if_pos hexit]
        exact ⟨rfl, rfl, hawait.silent_bind ((pure_writes h _).silent_bind (pure_writes h _))⟩
      | false =>
        obtain ⟨hvalue, henv, hwrites⟩ := respond_writes h hexit
        obtain ⟨hend, hafter, hrest⟩ := ih hwrites.works
        rw [henv] at hafter hrest
        rw [answered_cons hexit, loopEnd, if_neg (by simp [hexit])]
        refine ⟨?_, ?_, hawait.silent_bind (.bind_of_value hvalue hwrites hrest)⟩
        · simp only [Action.bind_run, await, emit, hvalue, hend]
        · simp only [Action.bind_run, await, emit, hvalue, hafter]
          rfl

/-- The loop does not look behind its stopping point. -/
theorem respondAll_take (prompt : Bool) {lines : List (Except Fault String)} {k : Nat}
    (h : (answered (lines.take (k + 1))).length ≤ k) :
    respondAll prompt lines = respondAll prompt (lines.take (k + 1)) := by
  induction lines generalizing k with
  | nil => rfl
  | cons head rest ih =>
    rw [List.take_succ_cons] at h ⊢
    cases head with
    | error fault => rfl
    | ok line =>
      rw [respondAll, respondAll]
      cases hexit : isExit line with
      | true => rw [respond_of_isExit hexit, pure_bind, pure_bind]
      | false =>
        rw [answered_cons hexit, List.length_cons] at h
        obtain ⟨k, rfl⟩ := Nat.exists_eq_add_one_of_ne_zero (n := k) (by omega)
        rw [ih (Nat.le_of_succ_le_succ h)]

end Session

end LineCalculator
