import LineCalculator.Pattern.Matcher
import Std.Data.HashSet

/-!
# Matching

A matcher is run by its residuals: what is left to be matched after a character. A residual is taken
at a place of the message, because assertions ask what stands before and after that place.
`search` says whether a matcher matches anywhere in a message.
-/
namespace LineCalculator.Pattern.Matcher

def matchesEmpty (s : Surroundings) : Matcher → Bool
  | nothing => true
  | literal cs => cs.isEmpty
  | set _ => false
  | look l => l.holds s
  | many count m => count.least = 0 || m.matchesEmpty s
  | group _ m => m.matchesEmpty s
  | sequence a b => a.matchesEmpty s && b.matchesEmpty s
  | choice a b => a.matchesEmpty s || b.matchesEmpty s

def followedBy (rest next : Matcher) : Matcher :=
  if rest = .nothing then next else .sequence rest next

/-- The characters of a text that are left after the first, as a matcher. -/
def ofRest : List Char → Matcher
  | [] => nothing
  | cs => literal cs

/-- What may be left after the character `c` at a place. A repetition that can do with nothing at
this place needs no further turns. -/
def residuals (s : Surroundings) (c : Char) : Matcher → List Matcher
  | nothing => []
  | literal [] => []
  | literal (d :: ds) => if c = d then [ofRest ds] else []
  | set ranges => if ranges.holds c then [nothing] else []
  | look _ => []
  | many count m =>
    if count.most = some 0 then []
    else
      let left : Count :=
        { count with
          least := if m.matchesEmpty s then 0 else count.least - 1
          most := count.most.map (· - 1) }
      (m.residuals s c).map (·.followedBy (many left m))
  | group _ m => m.residuals s c
  | sequence a b =>
    (a.residuals s c).map (·.followedBy b) ++
      if a.matchesEmpty s then b.residuals s c else []
  | choice a b => a.residuals s c ++ b.residuals s c

def distinct (ms : List Matcher) : List Matcher := (Std.HashSet.ofList ms).toList

theorem mem_distinct (ms : List Matcher) (m : Matcher) : m ∈ distinct ms ↔ m ∈ ms := by
  simp [distinct, Std.HashSet.mem_toList, Std.HashSet.mem_ofList]

/-- Whether `m` matches somewhere in the text after `before`, or one of the matchers `active` from
further back matches a beginning of that text. -/
def searchFrom (m : Matcher) (before : Option Char) (active : List Matcher) : List Char → Bool
  | [] => (m :: active).any (matchesEmpty ⟨before, none⟩)
  | c :: cs =>
    let here : Surroundings := ⟨before, some c⟩
    (m :: active).any (matchesEmpty here) ||
      searchFrom m (some c) (distinct ((m :: active).flatMap (residuals here c))) cs

def search (m : Matcher) (text : String) : Bool := m.searchFrom none [] text.toList

end LineCalculator.Pattern.Matcher
