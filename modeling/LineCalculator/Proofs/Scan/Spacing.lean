import LineCalculator.Proofs.Scan.Placement

/-!
# White space between segments

A token holds no white space and does not go on with any. So white space can be put between the
segments of a text, or in the place of a character that belongs to no token, and the other segments
stay what they were: `Respaced.maximalMunch`. In bytes, what stands behind is moved by what was put
in.
-/
namespace LineCalculator

lemma toNat_of_isNameChar {c : Char} (h : isNameChar c = true) :
    48 ≤ c.toNat ∧ c.toNat ≤ 122 := by
  have hsplit : isNameChar c = (isNameStart c || c.isDigit) := by
    simp [isNameChar, isNameStart, Char.isAlphanum, Bool.or_assoc]
  rw [hsplit] at h
  rcases Bool.or_eq_true_iff.mp h with h | h
  · have hrange := toNat_of_isNameStart h
    omega
  · have hrange := toNat_of_isDigit h
    omega

lemma isWhiteSpace_of_isNameChar {c : Char} (h : isNameChar c = true) :
    Text.isWhiteSpace c = false := by
  have hrange := toNat_of_isNameChar h
  exact isWhiteSpace_eq_false (by omega) (by omega)

lemma isWhiteSpace_of_isDigit {c : Char} (h : c.isDigit = true) : Text.isWhiteSpace c = false := by
  have hrange := toNat_of_isDigit h
  exact isWhiteSpace_eq_false (by omega) (by omega)

namespace Segment

lemma endsBefore_of_isWhiteSpace (s : Segment) {next : Char}
    (h : Text.isWhiteSpace next = true) : s.EndsBefore next := by
  cases s with
  | blank | unknown => exact trivial
  | token t cs =>
    cases t with
    | number =>
      refine ⟨Bool.eq_false_iff.mpr fun hd => ?_, fun _ => ?_⟩
      · simp [isWhiteSpace_of_isDigit hd] at h
      · rintro rfl
        exact absurd h (by decide)
    | identifier =>
      refine Bool.eq_false_iff.mpr fun hn => ?_
      simp [isWhiteSpace_of_isNameChar hn] at h
    | _ => exact trivial

lemma isWhiteSpace_of_mem_token {t : Token} {cs : List Char} (h : (token t cs).WellFormed)
    {c : Char} (hc : c ∈ cs) : Text.isWhiteSpace c = false := by
  have hsymbols : ∀ p ∈ symbols, Text.isWhiteSpace p.1 = false := by decide
  cases t with
  | number =>
    obtain ⟨whole, -, hwhole, rfl | ⟨fraction, hfraction, rfl⟩⟩ := h
    · exact isWhiteSpace_of_isDigit (hwhole c hc)
    · rcases List.mem_append.mp hc with hc | hc
      · exact isWhiteSpace_of_isDigit (hwhole c hc)
      · rcases List.mem_cons.mp hc with rfl | hc
        · decide
        · exact isWhiteSpace_of_isDigit (hfraction c hc)
  | identifier =>
    obtain ⟨d, rest, rfl, hd, hrest⟩ := h
    rcases List.mem_cons.mp hc with rfl | hc
    · have hrange := toNat_of_isNameStart hd
      exact isWhiteSpace_eq_false (by omega) (by omega)
    · exact isWhiteSpace_of_isNameChar (hrest c hc)
  | _ =>
    obtain ⟨d, rfl, hd⟩ := h
    obtain rfl := List.mem_singleton.mp hc
    exact hsymbols _ hd

end Segment

def blanks (w : List Char) : List Segment := w.map .blank

@[simp] lemma flatMap_text_blanks (w : List Char) : (blanks w).flatMap Segment.text = w := by
  induction w with
  | nil => rfl
  | cons c w ih => simpa [blanks, Segment.text] using ih

@[simp] lemma extent_blanks (w : List Char) : extent (blanks w) = Text.byteLength w := by
  rw [extent, flatMap_text_blanks]

/-- `Respaced segs out`: `out` are the segments `segs` with white space put between them, and in the
place of characters that belong to no token. -/
inductive Respaced : List Segment → List Segment → Prop
  | nil : Respaced [] []
  | keep (s : Segment) {segs out : List Segment} (tail : Respaced segs out) :
      Respaced (s :: segs) (s :: out)
  | insert {c : Char} {segs out : List Segment} (white : Text.isWhiteSpace c = true)
      (tail : Respaced segs out) : Respaced segs (.blank c :: out)
  | replace {c d : Char} {segs out : List Segment} (white : Text.isWhiteSpace d = true)
      (tail : Respaced segs out) : Respaced (.unknown c :: segs) (.blank d :: out)

namespace Respaced
variable {segs out : List Segment}

lemma refl (segs : List Segment) : Respaced segs segs := by
  induction segs with
  | nil => exact .nil
  | cons s segs ih => exact .keep s ih

lemma append {more next : List Segment} (h : Respaced segs out) (h' : Respaced more next) :
    Respaced (segs ++ more) (out ++ next) := by
  induction h with
  | nil => exact h'
  | keep s _ ih => exact .keep s ih
  | insert white _ ih => exact .insert white ih
  | replace white _ ih => exact .replace white ih

lemma blanks_append {w : List Char} (hw : ∀ c ∈ w, Text.isWhiteSpace c = true)
    (h : Respaced segs out) : Respaced segs (blanks w ++ out) := by
  induction w with
  | nil => exact h
  | cons c w ih =>
    obtain ⟨hc, hw⟩ := List.forall_mem_cons.mp hw
    exact .insert hc (ih hw)

lemma mem_head? (h : Respaced segs out) {next : Char}
    (hn : next ∈ (out.flatMap Segment.text).head?) :
    next ∈ (segs.flatMap Segment.text).head? ∨ Text.isWhiteSpace next = true := by
  induction h with
  | nil => exact .inl hn
  | @keep s segs out _ ih =>
    rw [List.flatMap_cons, List.head?_append] at hn ⊢
    cases hs : s.text.head? with
    | none =>
      rw [hs, Option.none_or] at hn
      exact ih hn
    | some c =>
      rw [hs, Option.some_or] at hn
      exact .inl hn
  | insert white =>
    obtain rfl : _ = next := Option.some.inj hn
    exact .inr white
  | replace white =>
    obtain rfl : _ = next := Option.some.inj hn
    exact .inr white

/-- Where segments take all that they can, they do so when they are respaced. -/
theorem maximalMunch (h : Respaced segs out) {cs : List Char} (hm : MaximalMunch cs segs) :
    MaximalMunch (out.flatMap Segment.text) out := by
  induction h generalizing cs with
  | nil => exact maximalMunch_nil
  | @keep s segs out tail ih =>
    obtain ⟨rest, -, hform, hend, hrest⟩ := maximalMunch_cons_iff.mp hm
    refine maximalMunch_cons_iff.mpr ⟨_, rfl, hform, fun next hn => ?_, ih hrest⟩
    rcases tail.mem_head? hn with hn | hw
    · rw [hrest.cover] at hn
      exact hend next hn
    · exact s.endsBefore_of_isWhiteSpace hw
  | insert white _ ih =>
    exact maximalMunch_cons_iff.mpr ⟨_, rfl, white, fun _ _ => trivial, ih hm⟩
  | replace white _ ih =>
    obtain ⟨rest, -, -, -, hrest⟩ := maximalMunch_cons_iff.mp hm
    exact maximalMunch_cons_iff.mpr ⟨_, rfl, white, fun _ _ => trivial, ih hrest⟩

theorem segments_eq {cs : List Char} (h : Respaced (segments cs) out) :
    segments (out.flatMap Segment.text) = out :=
  (h.maximalMunch (maximalMunch_segments cs)).eq_segments.symm

end Respaced

lemma filterMap_place_blanks {β : Type} {g : Placed → Option β}
    (h : ∀ offset c, g ⟨offset, .blank c⟩ = none) (offset : Nat) (w : List Char) :
    (place offset (blanks w)).filterMap g = [] := by
  refine List.filterMap_eq_nil_iff.mpr fun p hp => ?_
  obtain ⟨before, after, hsegs, -⟩ := mem_place_iff.mp hp
  have hmem : p.segment ∈ blanks w := by
    rw [hsegs]
    exact List.mem_append_right _ List.mem_cons_self
  obtain ⟨c, -, hc⟩ := List.mem_map.mp hmem
  obtain ⟨offset, seg⟩ := p
  obtain rfl : Segment.blank c = seg := hc
  exact h offset c

end LineCalculator
