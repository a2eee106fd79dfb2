import LineCalculator.Number.Numeral
import LineCalculator.Proofs.Session.OneLine

/-!
# Raising line numbers

The lines that a run writes name lines of the file in three ways, each with words of its own in
front of the number. `raiseNumber` raises the number in a line that was written and leaves other
lines alone. What is written when the first line of a file has a higher number is what was written
before, with the numbers raised.
-/
namespace LineCalculator

/-- The words in front of the number of a line: of one that has a value, of one that failed and of
one that cannot be read. -/
def lineMarks : List String := ["Line ", "Error at line ", "Could not read line "]

/-- The number that follows `mark` at the front of a line, and what stands after the colon. -/
def numberAfter? (mark line : String) : Option (Nat × String) := do
  let numbered ← line.toList.dropPrefix? mark.toList
  guard (numbered.head?.any Char.isDigit)
  let rest ← (numbered.dropWhile Char.isDigit).dropPrefix? ": ".toList
  return (Numeral.digitsValue (numbered.takeWhile Char.isDigit), String.ofList rest)

/-- A line with its number raised by `k`, if it begins with a number after one of the marks. -/
def raiseNumber (k : Nat) (line : String) : String :=
  let raised := lineMarks.findSome? fun mark => (numberAfter? mark line).map fun (n, rest) =>
    mark ++ toString (n + k) ++ ": " ++ rest
  raised.getD line

lemma digitsValue_toString (n : Nat) : Numeral.digitsValue (toString n).toList = n := by
  rw [Nat.toString_eq_ofList_toDigits, String.toList_ofList]
  exact Nat.ofDigitChars_ten_toDigits

lemma numberAfter?_mark (mark rest : String) (n : Nat) :
    numberAfter? mark (mark ++ toString n ++ ": " ++ rest) = some (n, rest) := by
  have hfront : ∀ front back : List Char, (front ++ back).dropPrefix? front = some back :=
    fun front back => List.dropPrefix?_append_of_beq back (beq_self_eq_true front)
  have hsplit : (mark ++ toString n ++ ": " ++ rest).toList =
      mark.toList ++ ((toString n).toList ++ (": ".toList ++ rest.toList)) := by
    simp only [String.toList_append, List.append_assoc]
  rw [numberAfter?, hsplit, hfront]
  simp only [Option.bind_eq_bind, Option.bind_some]
  rw [head?_number, dropWhile_isDigit_number, hfront, takeWhile_isDigit_number,
    digitsValue_toString]
  change some (n, String.ofList rest.toList) = _
  rw [String.ofList_toList]

lemma numberAfter?_eq_none {mark line : String} {c d : Char} (hmark : mark.toList.head? = some c)
    (hline : line.toList.head? = some d) (hne : d ≠ c) : numberAfter? mark line = none := by
  have hdrop : line.toList.dropPrefix? mark.toList = none := by
    refine Option.eq_none_iff_forall_ne_some.mpr fun rest hrest => hne ?_
    obtain ⟨front, hfront, hbeq⟩ := List.dropPrefix?_eq_some_iff.mp hrest
    rw [hfront, eq_of_beq hbeq, List.head?_append, hmark, Option.some_or] at hline
    exact (Option.some.inj hline).symm
  rw [numberAfter?, hdrop]
  rfl

lemma head?_toList_append {s : String} {c : Char} (h : s.toList.head? = some c) (t : String) :
    (s ++ t).toList.head? = some c := by
  rw [String.toList_append, List.head?_append, h, Option.some_or]

lemma raiseNumber_mark {mark : String} (h : mark ∈ lineMarks) (k n : Nat) (rest : String) :
    raiseNumber k (mark ++ toString n ++ ": " ++ rest) =
      mark ++ toString (n + k) ++ ": " ++ rest := by
  -- The marks differ in their first characters, so that no other one is found.
  have hother : ∀ {other : String} {c d : Char}, other.toList.head? = some c →
      mark.toList.head? = some d → d ≠ c →
        numberAfter? other (mark ++ toString n ++ ": " ++ rest) = none := fun hc hd hne =>
    numberAfter?_eq_none hc
      (head?_toList_append (head?_toList_append (head?_toList_append hd _) _) _) hne
  have hmark := numberAfter?_mark mark rest n
  simp only [lineMarks, List.mem_cons, List.not_mem_nil, or_false] at h
  unfold raiseNumber lineMarks
  rcases h with rfl | rfl | rfl
  · rw [List.findSome?_cons, hmark]
    rfl
  · have hline := @hother "Line " 'L' 'E' (by decide) (by decide) (by decide)
    rw [List.findSome?_cons, hline, Option.map_none, List.findSome?_cons, hmark]
    rfl
  · have hline := @hother "Line " 'L' 'C' (by decide) (by decide) (by decide)
    have herror := @hother "Error at line " 'E' 'C' (by decide) (by decide) (by decide)
    rw [List.findSome?_cons, hline, Option.map_none, List.findSome?_cons, herror, Option.map_none,
      List.findSome?_cons, hmark]
    rfl

lemma raiseNumber_unknown (k : Nat) (u : UnknownCharacter) :
    raiseNumber k u.message = u.message := by
  have hnone : lineMarks.findSome? (fun mark => (numberAfter? mark u.message).map fun (n, rest) =>
      mark ++ toString (n + k) ++ ": " ++ rest) = none := by
    refine List.findSome?_eq_none_iff.mpr fun mark hmark => ?_
    have hhead : u.message.toList.head? = some 'U' :=
      head?_toList_append (s := "Unknown character: ") (by decide) _
    have hmarks : ∀ mark ∈ lineMarks, mark.toList.head?.any ('U' ≠ ·) = true := by decide
    obtain ⟨c, hc, hne⟩ := (Option.any_eq_true _ _).mp (hmarks mark hmark)
    rw [numberAfter?_eq_none hc hhead (of_decide_eq_true hne), Option.map_none]
  rw [raiseNumber, hnone, Option.getD_none]

example : raiseNumber 95 "Error at line 7: Division by zero" =
    "Error at line 102: Division by zero" := by decide +kernel

section Written
variable (k n : Nat)

lemma printedAt_add (r : LineResult) :
    r.printedAt (n + k) = (r.printedAt n).map (raiseNumber k) := by
  unfold LineResult.printedAt
  cases r.result with
  | error e => rfl
  | ok v => rw [List.map_singleton, raiseNumber_mark (by decide)]

lemma message_reports_add (r : LineResult) :
    (r.reports (.failedAt (n + k))).map Diagnostic.message =
      ((r.reports (.failedAt n)).map Diagnostic.message).map (raiseNumber k) := by
  have hunknown : ∀ u : UnknownCharacter,
      raiseNumber k (Diagnostic.unknownCharacter u).message =
        (Diagnostic.unknownCharacter u).message := raiseNumber_unknown k
  unfold LineResult.reports
  simp only [List.map_append, List.map_map, Function.comp_def, hunknown]
  cases r.result with
  | ok v => rfl
  | error e =>
    refine congrArg (_ ++ [·]) ?_
    exact (raiseNumber_mark (by decide) k n e.message).symm

theorem filePrinted_add (rs : List (Option LineResult)) :
    filePrinted (n + k) rs = (filePrinted n rs).map (raiseNumber k) := by
  induction rs generalizing n with
  | nil => rfl
  | cons r rs ih =>
    rw [filePrinted_cons, filePrinted_cons, List.map_append, ← ih, Nat.add_right_comm]
    cases r with
    | none => rfl
    | some r => rw [Option.elim_some, Option.elim_some, printedAt_add]

lemma message_fileReported_add (rs : List (Option LineResult)) :
    (fileReported (n + k) rs).map Diagnostic.message =
      ((fileReported n rs).map Diagnostic.message).map (raiseNumber k) := by
  induction rs generalizing n with
  | nil => rfl
  | cons r rs ih =>
    rw [fileReported_cons, fileReported_cons, List.map_append, List.map_append, List.map_append,
      ← ih, Nat.add_right_comm]
    cases r with
    | none => rfl
    | some r => rw [Option.elim_some, Option.elim_some, message_reports_add]

/-- A run from a higher number reports the same with the numbers raised. -/
theorem message_runReported_add (env : Environment) (lines : List (Except Fault String)) :
    (runReported (n + k) env lines).map Diagnostic.message =
      ((runReported n env lines).map Diagnostic.message).map (raiseNumber k) := by
  have hunread : ∀ (m : Nat) (fault : Fault), (Diagnostic.unreadable (m + k) fault).message =
      raiseNumber k (Diagnostic.unreadable m fault).message := fun m fault =>
    (raiseNumber_mark (by decide) k m fault.message).symm
  rw [runReported, runReported, List.map_append, List.map_append, List.map_append,
    message_fileReported_add, Nat.add_right_comm]
  simp only [List.map_map, Function.comp_def, hunread]

end Written

end LineCalculator
