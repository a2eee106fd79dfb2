import LineCalculator.Text.Bytes

/-!
# Spans

A span names a stretch of a line by its first and its last byte, both of them inside the stretch.
-/
namespace LineCalculator

structure Span where
  /-- First byte. -/
  start : Nat
  /-- Last byte. -/
  stop : Nat
  deriving DecidableEq, Repr

namespace Span

def single (start : Nat) : Span := ⟨start, start⟩

/-- The place just past the last byte of `line`, where the end of input stands. -/
def past (line : String) : Span := single line.utf8ByteSize

/-- A span as messages show it: `[3:7]`. -/
def text (s : Span) : String := "[" ++ toString s.start ++ ":" ++ toString s.stop ++ "]"

/-- The stretch of `line` that a span names. There is none when the span runs backwards by more
than the empty stretch, runs past the end, or begins or ends inside a character. -/
def slice? (s : Span) (line : String) : Option String :=
  if s.stop + 1 < s.start then none
  else
    (Text.splitBytes? s.start line.toList).bind fun (_, rest) =>
      (Text.splitBytes? (s.stop + 1 - s.start) rest).map fun (stretch, _) => String.ofList stretch

@[simp] theorem single_start (n : Nat) : (single n).start = n := rfl
@[simp] theorem single_stop (n : Nat) : (single n).stop = n := rfl

theorem slice?_eq_some_iff {s : Span} {line t : String} :
    s.slice? line = some t ↔ s.start ≤ s.stop + 1 ∧ ∃ before after : List Char,
      line.toList = before ++ t.toList ++ after ∧ Text.byteLength before = s.start ∧
        Text.byteLength t.toList = s.stop + 1 - s.start := by
  unfold slice?
  split
  · simp; omega
  · simp only [Option.bind_eq_some_iff, Option.map_eq_some_iff, Prod.exists,
      Text.splitBytes?_eq_some_iff]
    constructor
    · rintro ⟨before, _, ⟨hline, hstart⟩, stretch, after, ⟨rfl, hlen⟩, rfl⟩
      exact ⟨by omega, before, after, by simpa using hline, hstart, by simpa using hlen⟩
    · rintro ⟨_, before, after, hline, hstart, hlen⟩
      exact ⟨before, t.toList ++ after, ⟨by simpa using hline, hstart⟩, t.toList, after,
        ⟨rfl, hlen⟩, by simp⟩

end Span

end LineCalculator
