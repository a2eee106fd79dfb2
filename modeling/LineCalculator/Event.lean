import LineCalculator.Channel
import LineCalculator.Diagnostic
import LineCalculator.Record

/-!
# Events

What a session does, in the order in which it does it: assignments, log records, lines offered to
the two channels. What can be seen of a run is read off its events.
-/
namespace LineCalculator

inductive Event where
  | assigned (assignment : Assignment)
  | logged (entry : Record)
  /-- A diagnostic was offered to the error channel, which took so many bytes. -/
  | reported (diagnostic : Diagnostic) (taken : Nat)
  /-- A line was offered to the print channel, which took so many bytes. -/
  | printed (line : String) (taken : Nat)
  /-- The user was asked for a line. -/
  | prompted

namespace Event

def printBytes : Event → List UInt8
  | printed line taken => Delivery.bytes ⟨line, taken⟩
  | _ => []

def errorBytes : Event → List UInt8
  | reported d taken => Delivery.bytes ⟨d.message, taken⟩
  | _ => []

def record? : Event → Option Record
  | logged r => some r
  | _ => none

def assignment? : Event → Option Assignment
  | assigned a => some a
  | _ => none

end Event

end LineCalculator
