/-!
# Channels

Lines are written to a channel byte by byte. A channel decides for each byte offered to it whether
it takes it, and a line ends at the first byte refused.
-/
namespace LineCalculator

structure Channel where
  /-- Whether the `i`-th byte offered is taken. -/
  accepts : Nat → Bool
  /-- How many bytes have been offered. -/
  offered : Nat := 0

/-- The bytes of a line with its end. -/
def lineBytes (line : String) : List UInt8 := (line ++ "\n").toUTF8.data.toList

/-- A line offered to a channel, and how many of its bytes were taken. -/
structure Delivery where
  line : String
  taken : Nat
  deriving DecidableEq, Repr

namespace Delivery

def bytes (d : Delivery) : List UInt8 := (lineBytes d.line).take d.taken

def complete (d : Delivery) : Bool := d.taken == (lineBytes d.line).length

end Delivery

namespace Channel

def unlimited : Channel := { accepts := fun _ => true }

def limited (room : Nat) : Channel := { accepts := fun i => i < room }

/-- How many of the next `n` bytes a channel takes before it refuses one. -/
def takes (c : Channel) (n : Nat) : Nat :=
  ((List.range n).takeWhile fun i => c.accepts (c.offered + i)).length

/-- Offer a line. A byte that is refused has been offered too. -/
def send (c : Channel) (line : String) : Delivery × Channel :=
  let taken := c.takes (lineBytes line).length
  (⟨line, taken⟩, { c with offered := c.offered + min (taken + 1) (lineBytes line).length })

theorem takes_le (c : Channel) (n : Nat) : c.takes n ≤ n := by
  have h := (List.takeWhile_sublist (l := List.range n)
    fun i => c.accepts (c.offered + i)).length_le
  simpa [takes] using h

@[simp] theorem takes_unlimited (n : Nat) : unlimited.takes n = n := by
  have h : ∀ l : List Nat, l.takeWhile (fun _ => true) = l := fun l => by
    induction l with
    | nil => rfl
    | cons _ _ ih => rw [List.takeWhile_cons, if_pos rfl, ih]
  simp [takes, unlimited, h]

end Channel

end LineCalculator
