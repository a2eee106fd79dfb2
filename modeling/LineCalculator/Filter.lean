import LineCalculator.Pattern
import LineCalculator.Record
import LineCalculator.Text.WhiteSpace

/-!
# Which records are shown

A filter is a list of limits, each for the topics that begin with a text or for all topics. Of the
limits for a topic the one with the longest text decides. A filter may also ask that messages match
a pattern. Filters are written `topic=level,topic=level/pattern`; a level alone is for every topic,
and a topic alone shows all of its records.
-/
namespace LineCalculator

/-- Records at most as low in severity as `limit` are shown, zero standing for none. -/
structure Directive where
  /-- The text that topics begin with, unless the limit is for all of them. -/
  topic : Option String
  limit : Nat
  deriving DecidableEq, Repr

namespace Directive

def covers (d : Directive) (topic : String) : Bool :=
  d.topic.all fun t => t.toList.isPrefixOf topic.toList

/-- How much a directive says about the topics that it covers. -/
def weight (d : Directive) : Nat := (d.topic.getD "").utf8ByteSize

end Directive

structure Filter where
  directives : List Directive
  pattern : Option Pattern.Matcher := none
  deriving DecidableEq, Repr

namespace Filter

/-- What is shown where no limit is given. -/
def errorsOnly : List Directive := [⟨none, 1⟩]

/-- The limit that a level sets, in any case of its letters. -/
def limit? (level : String) : Option Nat :=
  [("off", 0), ("error", 1), ("warn", 2), ("info", 3), ("debug", 4), ("trace", 5)].lookup
    (String.ofList (level.toList.map Char.toLower))

def trim (s : String) : String :=
  String.ofList (Text.trimEnd (s.toList.dropWhile Text.isWhiteSpace))

/-- One part of a written filter, or the text that is none. -/
def directive? (part : String) : Except String Directive :=
  match part.splitOn "=" with
  | [single] =>
    match limit? single with
    | some n => .ok ⟨none, n⟩
    | none => .ok ⟨some single, 5⟩
  | [topic, level] =>
    let level := trim level
    if level.isEmpty then .ok ⟨some topic, 5⟩
    else
      match limit? level with
      | some n => .ok ⟨some topic, n⟩
      | none => .error level
  | _ => .error part

/-- Add a directive; it takes the place of an earlier one for the same topic. -/
def insert (ds : List Directive) (d : Directive) : List Directive :=
  if ds.any (·.topic = d.topic) then ds.map fun e => if e.topic = d.topic then d else e
  else ds ++ [d]

def warning (text : String) : String :=
  "warning: invalid logging spec '" ++ text ++ "', ignoring it"

/-- Written directives, with warnings about the parts passed over. -/
def readDirectives (spec : String) : List Directive × List String :=
  let parts := (spec.splitOn ",").map trim |>.filter (!·.isEmpty)
  let found := parts.map directive?
  let directives := (found.filterMap Except.toOption).foldl insert []
  let warnings := found.filterMap fun d =>
    match d with
    | .error text => some (warning text)
    | .ok _ => none
  (if directives.isEmpty then errorsOnly else directives, warnings)

/-- A written filter, with warnings about what was passed over. -/
def read (spec : String) : Filter × List String :=
  match spec.splitOn "/" with
  | [limits] =>
    let (directives, warnings) := readDirectives limits
    ({ directives }, warnings)
  | [limits, pattern] =>
    let (directives, warnings) := readDirectives limits
    match Pattern.compile pattern with
    | .ok m => ({ directives, pattern := some m }, warnings)
    | .error reason =>
      ({ directives }, warnings ++ ["warning: invalid regex filter - " ++ reason])
  | _ => ({ directives := errorsOnly }, [warning spec ++ " (too many '/'s)"])

/-- The directive that says more; of two that say as much the later one. -/
def choose (chosen : Option Directive) (d : Directive) : Option Directive :=
  match chosen with
  | some c => if c.weight ≤ d.weight then some d else some c
  | none => some d

def shows (f : Filter) (r : Record) : Bool :=
  match (f.directives.filter (·.covers r.topic)).foldl choose none with
  | some d => r.severity.rank ≤ d.limit && f.pattern.all (·.search r.message)
  | none => false

end Filter

end LineCalculator
