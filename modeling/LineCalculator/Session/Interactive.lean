import LineCalculator.Session
import LineCalculator.Text.WhiteSpace

/-!
# The interactive loop

Each line is answered with its value. The loop ends with the input, with a line that cannot be
read, or with the command to exit.
-/
namespace LineCalculator

def banner : String := "Simple Language Interpreter (type 'exit' to quit)"

/-- The line that ends the loop; white space may follow the command. -/
def isExit (line : String) : Bool := Text.trimEnd line.toList == "exit".toList

/-- Whether the loop goes on after a line. -/
inductive Flow where
  | goOn
  | stop
  deriving DecidableEq, Repr

namespace Session

def respond (line : String) : Action (Except Fault Flow) :=
  if isExit line then return .ok .stop
  else do
    let v ← valueOrZero line
    match ← printNumber v with
    | .error fault => return .error fault
    | .ok () => return .ok .goOn

/-- What happens before a line is read; the user is asked for it if `prompt` is set. -/
def await (prompt : Bool) : Action Unit :=
  emit (.logged (.reading prompt) :: if prompt then [.prompted] else [])

/-- Answer lines until one of them, or the lack of one, ends the loop. -/
def respondAll (prompt : Bool) : List (Except Fault String) → Action (Except Fault Unit)
  | [] => do
    await prompt
    return .ok ()
  | .error fault :: _ => do
    await prompt
    return .error fault
  | .ok line :: rest => do
    await prompt
    match ← respond line with
    | .error fault => return .error fault
    | .ok .stop => return .ok ()
    | .ok .goOn => respondAll prompt rest

def greet : Action (Except Fault Unit) := do
  log .interactive
  printText banner

def interact (prompt : Bool) (lines : List (Except Fault String)) : Action (Except Fault Unit) := do
  match ← greet with
  | .error fault => return .error fault
  | .ok () => respondAll prompt lines

end Session

end LineCalculator
