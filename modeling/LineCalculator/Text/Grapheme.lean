import LineCalculator.Text.Role

/-!
# Grapheme clusters

A text is cut into clusters, each of which a reader takes for one character. Whether a character
belongs to the cluster before it follows from its role and from what stands before it.
-/
namespace LineCalculator.Text

/-- What stands before a place that may be a border of clusters. -/
structure Preceding where
  /-- The role of the character before. -/
  role : Role
  /-- Right before stand a consonant and what goes with it. -/
  consonant : Bool := false
  /-- A linker is among what goes with the consonant. -/
  linked : Bool := false
  /-- Right before stand a pictograph and what goes with it, perhaps up to a joiner. -/
  pictograph : Bool := false
  /-- Right before stands an odd number of halves of flags. -/
  halfFlag : Bool := false
  deriving DecidableEq, Repr

namespace Preceding

/-- What precedes the place after the first character. -/
def first (r : Role) : Preceding :=
  { role := r
    consonant := r = .consonant
    pictograph := r = .pictograph
    halfFlag := r = .regional }

/-- What precedes the place after one more character. -/
def next (p : Preceding) (r : Role) : Preceding :=
  let inConjunct := r = .extend || r = .linker || r = .joiner
  { role := r
    consonant := r = .consonant || (p.consonant && inConjunct)
    linked := p.consonant && inConjunct && (p.linked || r = .linker)
    pictograph := r = .pictograph ||
      (p.pictograph && p.role ≠ .joiner &&
        (r = .extend || r = .linker || r = .nonJoiner || r = .joiner))
    halfFlag := r = .regional && !p.halfFlag }

def isControl (r : Role) : Bool := r = .control || r = .carriageReturn || r = .lineFeed

/-- Whether a character in a role belongs to the cluster before it. -/
def joins (p : Preceding) (r : Role) : Bool :=
  if isControl p.role || isControl r then p.role = .carriageReturn && r = .lineFeed
  else
    match p.role, r with
    | _, .extend => true
    | _, .linker => true
    | _, .nonJoiner => true
    | _, .joiner => true
    | _, .spacingMark => true
    | .prepended, _ => true
    | .leading, r => r = .leading || r = .vowel || r = .openSyllable || r = .closedSyllable
    | .openSyllable, r => r = .vowel || r = .trailing
    | .vowel, r => r = .vowel || r = .trailing
    | .closedSyllable, r => r = .trailing
    | .trailing, r => r = .trailing
    | _, .consonant => p.linked
    | .joiner, .pictograph => p.pictograph
    | .regional, .regional => p.halfFlag
    | _, _ => false

end Preceding

/-- What is left of the cluster at hand, and the clusters after it. -/
def clustersFrom (p : Preceding) : List Char → List Char × List (List Char)
  | [] => ([], [])
  | c :: cs =>
    let role := Role.ofChar c
    let (rest, more) := clustersFrom (p.next role) cs
    if p.joins role then (c :: rest, more) else ([], (c :: rest) :: more)

def clusters : List Char → List (List Char)
  | [] => []
  | c :: cs =>
    let (rest, more) := clustersFrom (.first (Role.ofChar c)) cs
    (c :: rest) :: more

theorem clustersFrom_append (p : Preceding) (cs : List Char) :
    (clustersFrom p cs).1 ++ (clustersFrom p cs).2.flatten = cs := by
  induction cs generalizing p with
  | nil => rfl
  | cons c cs ih =>
    have h := ih (p.next (Role.ofChar c))
    unfold clustersFrom
    dsimp only
    split <;> simp [h]

/-- The clusters of a text are the text. -/
theorem flatten_clusters (cs : List Char) : (clusters cs).flatten = cs := by
  cases cs with
  | nil => rfl
  | cons c cs => simp [clusters, clustersFrom_append]

example : clusters ['e', '\u0301', 'f'] = [['e', '\u0301'], ['f']] := by decide

end LineCalculator.Text
