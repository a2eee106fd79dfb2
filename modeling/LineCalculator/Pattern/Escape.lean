import LineCalculator.Pattern.Cursor

/-!
# Escapes in patterns

What a backslash begins: a character, a set of characters, or an assertion.
-/
namespace LineCalculator.Pattern

/-- A part of a pattern that is not composed of others. -/
inductive Primitive where
  | literal (literal : Literal)
  | assertion (stretch : Stretch) (assertion : Assertion)
  | set (set : SetTree)

namespace Primitive

def stretch : Primitive → Stretch
  | literal l => l.stretch
  | assertion s _ => s
  | set t => t.stretch

def tree : Primitive → Tree
  | literal l => .literal l
  | assertion s a => .assertion s a
  | set t => .set t

end Primitive

namespace Escape

def isHexDigit (c : Char) : Bool :=
  c.isDigit || ('a' ≤ c && c ≤ 'f') || ('A' ≤ c && c ≤ 'F')

def hexValue (c : Char) : Nat :=
  if c.isDigit then c.toNat - '0'.toNat else c.toLower.toNat - 'a'.toNat + 10

def numberOf (base : Nat) (digits : List Nat) : Nat := digits.foldl (fun n d => base * n + d) 0

def character? (n : Nat) : Option Char :=
  if n.isValidChar then some (Char.ofNat n) else none

def hexDigits : Nat → Cursor → Except Problem (List Char × Cursor)
  | 0, c => .ok ([], c)
  | n + 1, c =>
    match c.char? with
    | none => complain .escapeUnfinished c.point
    | some d =>
      if isHexDigit d then do
        let (ds, c) ← hexDigits n c.step
        return (d :: ds, c)
      else complain .hexDigit c.charStretch

/-- A character by its number, which has so many digits unless it stands in braces. -/
def readHex (start : Place) (width : Nat) (c : Cursor) : Except Problem (Literal × Cursor) := do
  let c := c.step
  let isByte := width = 2
  match c.char? with
  | none => complain .escapeUnfinished c.point
  | some '\x7b' =>
    let inner := c.next.here
    let (ds, last) := c.step.collect isHexDigit
    match last.char? with
    | none => complain .escapeUnfinished (last.since c.here)
    | some '\x7d' =>
      let rest := last.step
      if ds.isEmpty then complain .hexEmpty (rest.since c.here)
      else
        match character? (numberOf 16 (ds.map hexValue)) with
        | none => complain .hexNoCharacter (last.since inner)
        | some char => return ({ stretch := rest.since start, char }, rest)
    | some _ => complain .hexDigit last.charStretch
  | some _ =>
    let (ds, rest) ← hexDigits width c
    match character? (numberOf 16 (ds.map hexValue)) with
    | none => complain .hexNoCharacter (rest.since c.here)
    | some char => return ({ stretch := rest.since start, char, isByte }, rest)

/-- A property of characters, by one letter or by a name in braces. -/
def readProperty (start : Place) (c : Cursor) : Except Problem (SetTree × Cursor) := do
  let c := c.step
  match c.char? with
  | none => complain .escapeUnfinished c.point
  | some '\x7b' =>
    let (name, last) := c.step.collect (· ≠ '\x7d')
    if last.atEnd then complain .escapeUnfinished last.point
    else return (.property (last.next.since start) name, last.next)
  | some '\\' => complain .propertyName c.charStretch
  | some ch => return (.property (c.step.since start) [ch], c.step)

/-- The assertion that the name in braces after a word boundary asks for; none if what stands in
the braces is a number. -/
def readWordName? (start : Place) (c : Cursor) :
    Except Problem (Option (Assertion × Cursor)) := do
  let isNameChar (ch : Char) : Bool := ch.isAlpha || ch = '-'
  let inner := c.step
  match inner.char? with
  | none => complain .wordOrCountUnfinished (inner.since start)
  | some ch =>
    if !isNameChar ch then return none
    else
      let (name, last) := inner.collect isNameChar
      if last.char? ≠ some '\x7d' then complain .wordUnclosed (last.since c.here)
      else
        match String.ofList name with
        | "start" => return some (.wordStart, last.next)
        | "end" => return some (.wordStop, last.next)
        | "start-half" => return some (.wordStartHalf, last.next)
        | "end-half" => return some (.wordStopHalf, last.next)
        | _ => complain .wordUnknown (last.since inner.here)

def isEscapable (c : Char) : Bool :=
  c.toNat < 128 && !c.isAlphanum && c ≠ '<' && c ≠ '>'

/-- The characters that a letter after a backslash stands for. -/
def control? : Char → Option Char
  | 'a' => some '\x07'
  | 'f' => some '\x0c'
  | 't' => some '\t'
  | 'n' => some '\n'
  | 'r' => some '\r'
  | 'v' => some '\x0b'
  | _ => none

/-- The assertions that a character after a backslash stands for. -/
def assertion? : Char → Option Assertion
  | 'A' => some .textStart
  | 'z' => some .textStop
  | 'b' => some .wordBoundary
  | 'B' => some .noWordBoundary
  | '<' => some .wordStart
  | '>' => some .wordStop
  | _ => none

/-- The sets of characters that a letter after a backslash stands for. -/
def short? : Char → Option (Bool × Ranges)
  | 'd' => some (false, digitRanges)
  | 'D' => some (true, digitRanges)
  | 's' => some (false, spaceRanges)
  | 'S' => some (true, spaceRanges)
  | 'w' => some (false, wordRanges)
  | 'W' => some (true, wordRanges)
  | _ => none

/-- Read an escape; the cursor stands at the backslash. -/
def read (c : Cursor) : Except Problem (Primitive × Cursor) := do
  let start := c.here
  let c := c.next
  match c.char? with
  | none => complain .escapeUnfinished (c.since start)
  | some ch =>
    let rest := c.next
    let stretch := rest.since start
    if ch.isDigit then complain .backreference stretch
    else if ch = 'x' || ch = 'u' || ch = 'U' then
      let width := if ch = 'x' then 2 else if ch = 'u' then 4 else 8
      let (l, rest) ← readHex start width c
      return (.literal l, rest)
    else if ch = 'p' || ch = 'P' then
      let (t, rest) ← readProperty start c
      return (.set t, rest)
    else if isEscapable ch then return (.literal { stretch, char := ch }, rest)
    else
      match short? ch, control? ch, assertion? ch with
      | some (negated, ranges), _, _ => return (.set (.short stretch negated ranges), rest)
      | _, some char, _ => return (.literal { stretch, char }, rest)
      | _, _, some a =>
        if a = .wordBoundary && rest.char? = some '\x7b' then
          match ← readWordName? start rest with
          | some (a, last) => return (.assertion (last.since start) a, last)
          | none => return (.assertion stretch a, rest)
        else return (.assertion stretch a, rest)
      | _, _, _ => complain .escapeUnknown stretch

end Escape

end LineCalculator.Pattern
