import LineCalculator.Pattern.Syntax

/-!
# Complaints about patterns

A text that is no pattern is shown with marks under the stretches at fault.
-/
namespace LineCalculator.Pattern

inductive Complaint where
  | setEscape
  | setRange
  | setRangeEnds
  | setUnclosed
  | decimalTooLarge
  | hexEmpty
  | hexNoCharacter
  | hexDigit
  | escapeUnfinished
  | escapeUnknown
  | flagDanglingNegation
  | flagDuplicate
  | flagRepeatedNegation
  | flagUnfinished
  | flagUnknown
  | nameDuplicate
  | nameEmpty
  | nameCharacter
  | nameUnclosed
  | groupUnclosed
  | groupUnopened
  | countRange
  | countEmpty
  | countUnclosed
  | repetitionMissing
  | wordUnclosed
  | wordUnknown
  | wordOrCountUnfinished
  | propertyName
  | backreference
  | lookAround
  | nesting (limit : Nat)
  | unicodeHere
  | bytes
  | propertyUnavailable
  | valueUnavailable
  | shortUnavailable
  | caseUnavailable
  deriving DecidableEq, Repr

namespace Complaint

def message : Complaint → String
  | setEscape => "invalid escape sequence found in character class"
  | setRange => "invalid character class range, the start must be <= the end"
  | setRangeEnds => "invalid range boundary, must be a literal"
  | setUnclosed => "unclosed character class"
  | decimalTooLarge => "decimal literal invalid"
  | hexEmpty => "hexadecimal literal empty"
  | hexNoCharacter => "hexadecimal literal is not a Unicode scalar value"
  | hexDigit => "invalid hexadecimal digit"
  | escapeUnfinished => "incomplete escape sequence, reached end of pattern prematurely"
  | escapeUnknown => "unrecognized escape sequence"
  | flagDanglingNegation => "dangling flag negation operator"
  | flagDuplicate => "duplicate flag"
  | flagRepeatedNegation => "flag negation operator repeated"
  | flagUnfinished => "expected flag but got end of regex"
  | flagUnknown => "unrecognized flag"
  | nameDuplicate => "duplicate capture group name"
  | nameEmpty => "empty capture group name"
  | nameCharacter => "invalid capture group character"
  | nameUnclosed => "unclosed capture group name"
  | groupUnclosed => "unclosed group"
  | groupUnopened => "unopened group"
  | countRange => "invalid repetition count range, the start must be <= the end"
  | countEmpty => "repetition quantifier expects a valid decimal"
  | countUnclosed => "unclosed counted repetition"
  | repetitionMissing => "repetition operator missing expression"
  | wordUnclosed =>
    "special word boundary assertion is either unclosed or contains an invalid character"
  | wordUnknown =>
    "unrecognized special word boundary assertion, valid choices are: start, end, start-half " ++
      "or end-half"
  | wordOrCountUnfinished =>
    "found either the beginning of a special word boundary or a bounded repetition on a \\b " ++
      "with an opening brace, but no closing brace"
  | propertyName => "invalid Unicode character class"
  | backreference => "backreferences are not supported"
  | lookAround => "look-around, including look-ahead and look-behind, is not supported"
  | nesting limit =>
    "exceed the maximum number of nested parentheses/brackets (" ++ toString limit ++ ")"
  | unicodeHere => "Unicode not allowed here"
  | bytes => "pattern can match invalid UTF-8"
  | propertyUnavailable => "Unicode property not found"
  | valueUnavailable => "Unicode property value not found"
  | shortUnavailable =>
    "Unicode-aware Perl class not found (make sure the unicode-perl feature is enabled)"
  | caseUnavailable =>
    "Unicode-aware case insensitivity matching is not available (make sure the unicode-case " ++
      "feature is enabled)"

end Complaint

/-- What is wrong with a text, and where. -/
structure Problem where
  complaint : Complaint
  stretch : Stretch
  /-- A second stretch that the first one is at odds with. -/
  other : Option Stretch := none
  deriving DecidableEq, Repr

namespace Problem

def linesOf : List Char → List (List Char)
  | [] => []
  | '\r' :: '\n' :: cs => [] :: linesOf cs
  | c :: cs =>
    if c = '\n' then [] :: linesOf cs
    else
      match linesOf cs with
      | [] => [[c]]
      | line :: rest => (c :: line) :: rest

def spaces (n : Nat) : String := String.ofList (List.replicate n ' ')

def stretches (p : Problem) : List Stretch :=
  match p.other with
  | none => [p.stretch]
  | some o =>
    if o.start.line < p.stretch.start.line ||
        (o.start.line = p.stretch.start.line && o.start.column ≤ p.stretch.start.column) then
      [o, p.stretch]
    else [p.stretch, o]

def onOneLine (s : Stretch) : Bool := s.start.line = s.stop.line

def marks (pos : Nat) : List Stretch → String
  | [] => ""
  | s :: rest =>
    let width := max 1 (s.stop.column - s.start.column)
    spaces (s.start.column - pos) ++ String.ofList (List.replicate width '^') ++
      marks (max pos s.start.column + width) rest

/-- A line of the text, followed by the marks under it. -/
def markedLine (p : Problem) (width : Nat) (number : Nat) (line : List Char) : String :=
  let digits := toString number
  let lead := if width = 0 then spaces 4 else spaces (width - digits.length) ++ digits ++ ": "
  let here := p.stretches.filter fun s => onOneLine s && s.start.line = number
  lead ++ String.ofList line ++ "\n" ++
    if here.isEmpty then "" else spaces lead.length ++ marks 1 here ++ "\n"

def placeText (p : Place) : String :=
  "line " ++ toString p.line ++ " (column " ++ toString p.column ++ ")"

/-- A stretch over several lines is described in words. -/
def stretchText (s : Stretch) : String :=
  "on " ++ placeText s.start ++ " through " ++ placeText ⟨s.stop.line, s.stop.column - 1⟩ ++ "\n"

def text (p : Problem) (pattern : String) : String :=
  let lines := linesOf pattern.toList
  let severalLines := pattern.contains '\n'
  let count := lines.length + if pattern.toList.getLast? = some '\n' then 1 else 0
  let width := if count ≤ 1 then 0 else (toString count).length
  let rule := if severalLines then String.ofList (List.replicate 79 '~') ++ "\n" else ""
  let body := String.join
    (lines.zipIdx.map fun (line, i) => p.markedLine width (i + 1) line)
  let notes :=
    if severalLines then
      String.join ((p.stretches.filter fun s => !onOneLine s).map stretchText)
    else ""
  "regex parse error:\n" ++ rule ++ body ++ rule ++ notes ++ "error: " ++ p.complaint.message

end Problem

def complain {α : Type} (complaint : Complaint) (stretch : Stretch) : Except Problem α :=
  .error { complaint, stretch }

end LineCalculator.Pattern
