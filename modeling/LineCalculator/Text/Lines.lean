import LineCalculator.Fault

/-!
# Lines of a byte content

A line ends at a line feed, and a carriage return right before the line feed belongs to the end of
the line. What stands after the last line feed is a line too, unless it is empty. Lines must be
UTF-8.
-/
namespace LineCalculator

namespace Text

def lineFeed : UInt8 := 10

/-- Put one more byte in front of lines that still have their ends. -/
def consByte (b : UInt8) (lines : List (List UInt8)) : List (List UInt8) :=
  if b = lineFeed then [b] :: lines
  else
    match lines with
    | [] => [[b]]
    | line :: rest => (b :: line) :: rest

def rawLines (bytes : List UInt8) : List (List UInt8) := bytes.foldr consByte []

/-- The lines of a content are the content. -/
theorem flatten_rawLines (bytes : List UInt8) : (rawLines bytes).flatten = bytes := by
  induction bytes with
  | nil => rfl
  | cons b bytes ih =>
    have h : (consByte b (rawLines bytes)).flatten = b :: (rawLines bytes).flatten := by
      unfold consByte
      split
      · simp
      · cases rawLines bytes <;> simp
    rw [show rawLines (b :: bytes) = consByte b (rawLines bytes) from rfl, h, ih]

def decode (bytes : List UInt8) : Except Fault String :=
  match String.fromUTF8? ⟨bytes.toArray⟩ with
  | some text => .ok text
  | none => .error .invalidText

/-- A text without its last character, if that is `c`. -/
def dropFinal (c : Char) (cs : List Char) : List Char :=
  if cs.getLast? = some c then cs.dropLast else cs

/-- A line without its end. -/
def dropLineEnd (cs : List Char) : List Char :=
  if cs.getLast? = some '\n' then dropFinal '\r' cs.dropLast else cs

example : dropLineEnd ['a', '\r', '\r', '\n'] = ['a', '\r'] := by decide
example : dropLineEnd ['a', '\r'] = ['a', '\r'] := by decide

end Text

/-- What is behind a path or a stream once it is open. -/
inductive Input where
  | content (bytes : List UInt8)
  | directory
  deriving DecidableEq, Repr

namespace Input

/-- The lines to read with their ends. A directory can be opened, but its first line cannot be
read. -/
def rawLines : Input → List (Except Fault String)
  | content bytes => (Text.rawLines bytes).map Text.decode
  | directory => [.error .isADirectory]

def lines (input : Input) : List (Except Fault String) :=
  input.rawLines.map fun line => line.map fun text => String.ofList (Text.dropLineEnd text.toList)

end Input

end LineCalculator
