/-!
# Variables

An environment gives values to names. Only `get` can be seen of it, and `get_set` is its law.
-/
namespace LineCalculator

structure Environment where
  /-- The variables, the latest assignment first, each name at most once. -/
  entries : List (String × Float) := []
  deriving DecidableEq

namespace Environment

instance : EmptyCollection Environment := ⟨{}⟩

def get (env : Environment) (name : String) : Option Float := env.entries.lookup name

/-- Give a variable a value in place of any value it had. -/
def set (env : Environment) (name : String) (value : Float) : Environment :=
  ⟨(name, value) :: env.entries.filter (·.1 != name)⟩

@[simp] theorem get_empty (name : String) : (∅ : Environment).get name = none := rfl

theorem lookup_filter_ne {entries : List (String × Float)} {name other : String}
    (h : other ≠ name) :
    (entries.filter (·.1 != name)).lookup other = entries.lookup other := by
  induction entries with
  | nil => rfl
  | cons entry entries ih =>
    obtain ⟨key, value⟩ := entry
    by_cases hkey : key = name
    · subst hkey
      have hother : (other == key) = false := by simpa using h
      simp [List.lookup_cons, hother, ih]
    · have hne : (key != name) = true := by simpa using hkey
      simp only [List.filter_cons, hne, if_true, List.lookup_cons, ih]

/-- After an assignment the name has the new value and every other name keeps its own. -/
theorem get_set (env : Environment) (name other : String) (value : Float) :
    (env.set name value).get other = if other = name then some value else env.get other := by
  by_cases h : other = name
  · simp [get, set, h]
  · have hne : (other == name) = false := by simpa using h
    simp [get, set, List.lookup_cons, h, hne, lookup_filter_ne h]

end Environment

end LineCalculator
