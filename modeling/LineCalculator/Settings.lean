/-!
# Settings

Settings are texts under names. They come from the outside of the program and from the settings
file, and a name keeps the first value that it is given.
-/
namespace LineCalculator

structure Settings where
  entries : List (String × String) := []
  deriving DecidableEq, Repr

namespace Settings

def after? : (front text : List Char) → Option (List Char)
  | [], cs => some cs
  | _ :: _, [] => none
  | f :: fs, c :: cs => if f = c then after? fs cs else none

/-- What an entry `name=value` says about a name: the text after the name and an equals sign. -/
def valueIn? (name : String) (entry : String × String) : Option String :=
  (after? (name.toList ++ ['=']) (entry.1.toList ++ '=' :: entry.2.toList)).map String.ofList

def get (s : Settings) (name : String) : Option String := s.entries.findSome? (valueIn? name)

/-- Give a name a value, unless it has one. -/
def add (s : Settings) (name value : String) : Settings :=
  if (s.get name).isSome then s else ⟨(name, value) :: s.entries⟩

/-- Names that have no equals sign are told apart by it. -/
theorem after?_cons_eq {a b rest : List Char} (ha : '=' ∉ a) (hb : '=' ∉ b) :
    after? (a ++ ['=']) (b ++ '=' :: rest) = if a = b then some rest else none := by
  induction a generalizing b with
  | nil =>
    cases b with
    | nil => simp [after?]
    | cons d b =>
      have hd : ¬('=' = d) := fun h => hb (h ▸ List.mem_cons_self)
      simp [after?, hd]
  | cons c a ih =>
    have hc : ¬(c = '=') := fun h => ha (h ▸ List.mem_cons_self)
    cases b with
    | nil => simp [after?, hc]
    | cons d b =>
      have h := ih (b := b) (fun h => ha (List.mem_cons_of_mem c h))
        (fun h => hb (List.mem_cons_of_mem d h))
      by_cases hcd : c = d <;> simp [after?, hcd, h]

/-- For names without an equals sign, an entry speaks of its own name only. -/
theorem valueIn?_eq {name other value : String} (hn : '=' ∉ name.toList)
    (ho : '=' ∉ other.toList) :
    valueIn? other (name, value) = if other = name then some value else none := by
  unfold valueIn?
  rw [after?_cons_eq ho hn]
  by_cases h : other = name
  · simp [h]
  · have : ¬(other.toList = name.toList) := fun he => h (String.toList_inj.1 he)
    simp [h, this]

/-- A value that is there stays, and one that is missing is given. -/
theorem get_add (s : Settings) {name other : String} (value : String) (hn : '=' ∉ name.toList)
    (ho : '=' ∉ other.toList) :
    (s.add name value).get other =
      if other = name then some ((s.get name).getD value) else s.get other := by
  unfold add
  split
  · next h =>
    obtain ⟨old, hold⟩ := Option.isSome_iff_exists.1 h
    split
    · next he => rw [he, hold]; rfl
    · rfl
  · next h =>
    have hnone : s.get name = none := by simpa using h
    have hget : (Settings.mk ((name, value) :: s.entries)).get other =
        (valueIn? other (name, value)).or (s.get other) := by
      simp only [get, List.findSome?_cons]
      cases valueIn? other (name, value) <;> rfl
    rw [hget, valueIn?_eq hn ho]
    split
    · next he => rw [he, hnone]; rfl
    · rfl

/-- Settings with these values, of which the first under a name counts. -/
def ofList (entries : List (String × String)) : Settings :=
  entries.foldl (fun s (name, value) => s.add name value) {}

end Settings

end LineCalculator
