import LineCalculator.Pattern.Meaning
import LineCalculator.Pattern.Nesting
import LineCalculator.Pattern.Reader
import LineCalculator.Pattern.Search
import LineCalculator.Pattern.Size

/-!
# Patterns

A written pattern is read to a tree, the tree is given a meaning, and the meaning has to be of a
size that can be handled. What goes wrong on the way is put in words.
-/
namespace LineCalculator.Pattern

def matcherOf (text : String) : Except Problem Matcher := do
  let t ← readTree text
  t.checkNesting
  return (← t.meaning {}).1

/-- Why a matcher cannot be used, if so. -/
def obstacle? (m : Matcher) : Option String :=
  let tooLarge := "Compiled regex exceeds size limit of " ++ toString sizeLimit ++ " bytes."
  if sizeLimit < m.automatonSize .forward then some tooLarge
  else if m.usesUnicodeWords then some "error building NFA"
  else if sizeLimit < m.automatonSize .backward then some tooLarge
  else none

/-- The matcher for a written pattern, or what is wrong with it. -/
def compile (text : String) : Except String Matcher :=
  match matcherOf text with
  | .error problem => .error (problem.text text)
  | .ok m =>
    match obstacle? m with
    | some reason => .error reason
    | none => .ok m

end LineCalculator.Pattern
