import LineCalculator.Session
import LineCalculator.Text.Lines
import LineCalculator.Text.WhiteSpace

/-!
# Running a file

The lines of a file are evaluated in order and results are printed with their line numbers. Blank
lines and comments are skipped but numbered. The run ends at a line that cannot be read, and at a
result that cannot be printed.
-/
namespace LineCalculator

/-- Blank lines and lines that begin with a number sign are skipped. -/
def isSkipped (line : String) : Bool :=
  Text.isBlank line.toList || line.toList.head? == some '#'

namespace Session

def resultLine (n : Nat) (v : Float) : String := "Line " ++ toString n ++ ": " ++ display v

/-- Run lines, the first of them being line `n`. -/
def runLines (n : Nat) : List (Except Fault String) → Action (Except Fault Summary)
  | [] => pure (.ok {})
  | .error fault :: _ => do
    report (.unreadable n fault)
    return .ok {}
  | .ok line :: rest =>
    if isSkipped line then Except.map ({ skipped := 1 } + ·) <$> runLines (n + 1) rest
    else do
      match ← tryLine line with
      | .ok v =>
        match ← printText (resultLine n v) with
        | .error fault => return .error fault
        | .ok () => Except.map ({ evaluated := 1 } + ·) <$> runLines (n + 1) rest
      | .error e =>
        log (.failedAt n e)
        report (.failedAt n e)
        Except.map ({ failed := 1 } + ·) <$> runLines (n + 1) rest

def runInput (input : Input) : Action (Except Fault Summary) := runLines 1 input.lines

/-- Run a file, given what opening it came to. A file that cannot be opened is reported and has
no summary. -/
def runPath (path : String) (opened : Except Fault Input) :
    Action (Except Fault (Option Summary)) := do
  log (.opening path)
  match opened with
  | .error fault =>
    log (.openFailed path fault)
    report (.cannotOpen path)
    return .ok none
  | .ok input =>
    match ← runInput input with
    | .error fault => return .error fault
    | .ok summary =>
      log (.finished path summary)
      return .ok (some summary)

end Session

end LineCalculator
