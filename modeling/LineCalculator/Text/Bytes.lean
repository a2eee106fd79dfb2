/-!
# Bytes of a text

Places in a line are counted in UTF-8 bytes. `splitBytes?` cuts a text after a number of bytes and
refuses to cut inside a character; `splitBytes?_eq_some_iff` says that this is all it does.
-/
namespace LineCalculator.Text

def byteLength (cs : List Char) : Nat := cs.foldr (fun c n => c.utf8Size + n) 0

@[simp] theorem byteLength_nil : byteLength [] = 0 := rfl

@[simp] theorem byteLength_cons (c : Char) (cs : List Char) :
    byteLength (c :: cs) = c.utf8Size + byteLength cs := rfl

@[simp] theorem byteLength_append (as bs : List Char) :
    byteLength (as ++ bs) = byteLength as + byteLength bs := by
  induction as with
  | nil => simp
  | cons c as ih => simp [ih, Nat.add_assoc]

/-- A character takes at least one byte. -/
theorem length_le_byteLength (cs : List Char) : cs.length ≤ byteLength cs := by
  induction cs with
  | nil => exact Nat.le_refl 0
  | cons c cs ih =>
    have hc := c.utf8Size_pos
    rw [List.length_cons, byteLength_cons]
    omega

theorem byteLength_eq_utf8ByteSize (cs : List Char) :
    byteLength cs = (String.ofList cs).utf8ByteSize := by
  induction cs with
  | nil => rfl
  | cons c cs ih =>
    have hsplit : String.ofList (c :: cs) = String.singleton c ++ String.ofList cs := by
      rw [String.singleton_eq_ofList, ← String.ofList_append]
      rfl
    rw [byteLength_cons, ih, hsplit, String.utf8ByteSize_append, String.utf8ByteSize_singleton]

/-- The bytes of a string are the bytes of its characters. -/
@[simp] theorem byteLength_toList (s : String) : byteLength s.toList = s.utf8ByteSize := by
  rw [byteLength_eq_utf8ByteSize, String.ofList_toList]

/-- Cut a text after exactly `n` bytes. There is no answer when that place is inside a character
or past the end. -/
def splitBytes? : Nat → List Char → Option (List Char × List Char)
  | 0, cs => some ([], cs)
  | _ + 1, [] => none
  | n + 1, c :: cs =>
    if c.utf8Size ≤ n + 1 then
      (splitBytes? (n + 1 - c.utf8Size) cs).map fun (front, rest) => (c :: front, rest)
    else none

@[simp] theorem splitBytes?_zero (cs : List Char) : splitBytes? 0 cs = some ([], cs) := by
  cases cs <;> rfl

theorem splitBytes?_append (front rest : List Char) :
    splitBytes? (byteLength front) (front ++ rest) = some (front, rest) := by
  induction front with
  | nil => simp
  | cons c front ih =>
    have hc := c.utf8Size_pos
    obtain ⟨n, hn⟩ : ∃ n, c.utf8Size + byteLength front = n + 1 :=
      Nat.exists_eq_add_one_of_ne_zero (by omega)
    rw [List.cons_append, byteLength_cons, hn, splitBytes?, ← hn]
    simp [ih]

/-- A cut puts the text apart and nothing else, at the byte asked for. -/
theorem splitBytes?_eq_some_iff {n : Nat} {cs front rest : List Char} :
    splitBytes? n cs = some (front, rest) ↔ cs = front ++ rest ∧ byteLength front = n := by
  constructor
  · intro h
    fun_induction splitBytes? n cs generalizing front with
    | case1 => simp_all
    | case2 => simp at h
    | case3 n c cs hc ih =>
      obtain ⟨⟨a, b⟩, hab, heq⟩ := Option.map_eq_some_iff.1 h
      obtain ⟨rfl, rfl⟩ := Prod.mk.inj heq
      obtain ⟨rfl, hlen⟩ := ih hab
      exact ⟨rfl, by rw [byteLength_cons]; omega⟩
    | case4 => simp at h
  · rintro ⟨rfl, rfl⟩
    exact splitBytes?_append front rest

end LineCalculator.Text
