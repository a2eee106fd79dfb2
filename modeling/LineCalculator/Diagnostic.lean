import LineCalculator.Fault
import LineCalculator.LineError
import LineCalculator.Scan

/-!
# Diagnostics

The messages for the user about what went wrong, one line each.
-/
namespace LineCalculator

inductive Diagnostic where
  | unknownCharacter (unknown : UnknownCharacter)
  /-- A line has no value. -/
  | failed (error : LineError)
  /-- A line of a file has no value. -/
  | failedAt (line : Nat) (error : LineError)
  | unreadable (line : Nat) (fault : Fault)
  | cannotOpen (path : String)
  deriving DecidableEq, Repr

def Diagnostic.message : Diagnostic → String
  | unknownCharacter u => u.message
  | failed e => "Error: " ++ e.message
  | failedAt n e => "Error at line " ++ toString n ++ ": " ++ e.message
  | unreadable n f => "Could not read line " ++ toString n ++ ": " ++ f.message
  | cannotOpen p => "Could not open file: " ++ p

end LineCalculator
