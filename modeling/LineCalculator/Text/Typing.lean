import LineCalculator.Text.Bytes
import LineCalculator.Text.Grapheme
import LineCalculator.Text.Lines

/-!
# Typed lines

A backspace in a typed line takes back what was typed before it, one grapheme cluster at a time.
-/
namespace LineCalculator

namespace Text

def backspace : Char := '\x08'

/-- What was typed so far. -/
structure Typed where
  /-- The text, the last character first. -/
  text : List Char := []
  /-- How many bytes to take back for each cluster, the last one first. -/
  sizes : List Nat := []
  deriving DecidableEq, Repr

/-- A text, last character first, without its last `n` bytes; none if a character would be cut. -/
def takeBack : (n : Nat) → List Char → Option (List Char)
  | 0, cs => some cs
  | _ + 1, [] => none
  | n + 1, c :: cs => if c.utf8Size ≤ n + 1 then takeBack (n + 1 - c.utf8Size) cs else none

/-- Type one more cluster. The size of a cluster is kept in one byte. -/
def Typed.add (t : Typed) (cluster : List Char) : Option Typed :=
  if cluster = [backspace] then
    match t.sizes with
    | [] => some t
    | n :: sizes => (takeBack n t.text).map fun text => { text, sizes }
  else
    some { text := cluster.reverse ++ t.text
           sizes := byteLength cluster % 256 :: t.sizes }

/-- The text that is left of typed clusters. -/
def afterTyping (cs : List Char) : Option (List Char) :=
  ((clusters cs).foldlM Typed.add {}).map (·.text.reverse)

theorem text_foldlM_add (clusters : List (List Char)) (t : Typed)
    (h : [backspace] ∉ clusters) :
    (clusters.foldlM Typed.add t).map (·.text) = some (clusters.flatten.reverse ++ t.text) := by
  induction clusters generalizing t with
  | nil => simp
  | cons c cs ih =>
    have hc : c ≠ [backspace] := fun he => h (he ▸ List.mem_cons_self)
    have hcs : [backspace] ∉ cs := fun hm => h (List.mem_cons_of_mem c hm)
    rw [List.foldlM_cons]
    simp [Typed.add, hc, ih _ hcs]

/-- Without a backspace a line is what was typed. -/
theorem afterTyping_eq_some {cs : List Char} (h : backspace ∉ cs) : afterTyping cs = some cs := by
  have hc : [backspace] ∉ clusters cs := by
    intro hm
    refine h ?_
    rw [← flatten_clusters cs]
    exact List.mem_flatten.2 ⟨[backspace], hm, List.mem_singleton_self _⟩
  have ht := text_foldlM_add (clusters cs) {} hc
  rw [flatten_clusters] at ht
  obtain ⟨t, hfold, htext⟩ := Option.map_eq_some_iff.1 ht
  simp [afterTyping, hfold, htext]

example : afterTyping ['a', '\x08', '\x08', 'b', 'c', '\x08'] = some ['b'] := by decide

end Text

def typedText (line : String) : Except Fault String :=
  match Text.afterTyping line.toList with
  | some cs => .ok (String.ofList cs)
  | none => .error .characterCut

def Input.typedLines (input : Input) : List (Except Fault String) :=
  input.lines.map (·.bind typedText)

end LineCalculator
