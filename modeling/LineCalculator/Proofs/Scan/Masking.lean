import LineCalculator.Proofs.Scan.Spacing

/-!
# Unknown characters as white space

The characters of a line that belong to no token are on record with their places. With a space for
each of their bytes they are gone, and the items of the line are the same at the same places.
-/
namespace LineCalculator

/-- A text from the byte `offset` on, with spaces for the bytes of the characters on record. -/
def spacedOut (record : List UnknownCharacter) : Nat → List Char → List Char
  | _, [] => []
  | offset, c :: cs =>
    (if ⟨c, offset⟩ ∈ record then List.replicate c.utf8Size ' ' else [c]) ++
      spacedOut record (offset + c.utf8Size) cs

/-- A line with spaces for the bytes of its unknown characters. -/
def withoutUnknown (line : String) : String :=
  String.ofList (spacedOut (scan line).unknown 0 line.toList)

section SpacedOut
variable {record : List UnknownCharacter}

lemma spacedOut_append (offset : Nat) (as bs : List Char) :
    spacedOut record offset (as ++ bs) =
      spacedOut record offset as ++ spacedOut record (offset + Text.byteLength as) bs := by
  induction as generalizing offset with
  | nil => rfl
  | cons c as ih =>
    rw [List.cons_append, spacedOut, spacedOut, ih, List.append_assoc, Text.byteLength_cons,
      Nat.add_assoc]

lemma spacedOut_eq_self {offset : Nat} {cs : List Char}
    (h : ∀ u ∈ record, ¬ (offset ≤ u.offset ∧ u.offset < offset + Text.byteLength cs)) :
    spacedOut record offset cs = cs := by
  induction cs generalizing offset with
  | nil => rfl
  | cons c cs ih =>
    have hc := c.utf8Size_pos
    simp only [Text.byteLength_cons] at h
    have hfirst : (⟨c, offset⟩ : UnknownCharacter) ∉ record := fun hmem => by
      have hc' := h _ hmem
      dsimp only at hc'
      omega
    rw [spacedOut, if_neg hfirst, ih fun u hu => ?_]
    · rfl
    · have hu' := h u hu
      omega

end SpacedOut

lemma mem_unknown_iff {line : String} {u : UnknownCharacter} :
    u ∈ (scan line).unknown ↔ ∃ before after,
      segments line.toList = before ++ .unknown u.char :: after ∧ u.offset = extent before := by
  constructor
  · intro h
    obtain ⟨⟨offset, seg⟩, hp, hu⟩ := List.mem_filterMap.mp h
    obtain ⟨before, after, hsegs, hoffset⟩ := mem_place_iff.mp hp
    cases seg with
    | blank | token => simp [Placed.unknown?] at hu
    | unknown c =>
      obtain rfl : _ = u := Option.some.inj hu
      exact ⟨before, after, hsegs, by simpa using hoffset⟩
  · rintro ⟨before, after, hsegs, hoffset⟩
    have hmem := List.mem_of_getElem? ((scan_records line).unknown before u.char after hsegs)
    rwa [← hoffset] at hmem

lemma pairwise_unknown (line : String) :
    (scan line).unknown.Pairwise fun u v => u.offset < v.offset := by
  have hplaced := pairwise_place 0 (segments line.toList)
  refine List.pairwise_filterMap.mpr (hplaced.imp fun {p q} hle u hu v hv => ?_)
  obtain ⟨offset, seg⟩ := p
  obtain ⟨offset', seg'⟩ := q
  cases seg with
  | blank | token => simp [Placed.unknown?] at hu
  | unknown c =>
    cases seg' with
    | blank | token => simp [Placed.unknown?] at hv
    | unknown d =>
      obtain rfl : _ = u := Option.some.inj hu
      obtain rfl : _ = v := Option.some.inj hv
      have hc := c.utf8Size_pos
      simp only [Placed.finish, Segment.text, Text.byteLength_cons, Text.byteLength_nil] at hle
      dsimp only
      omega

namespace Segment

/-- A segment with a space for each byte, if it is an unknown character. -/
def masked : Segment → List Segment
  | unknown c => blanks (List.replicate c.utf8Size ' ')
  | s => [s]

lemma byteLength_replicate (n : Nat) : Text.byteLength (List.replicate n ' ') = n := by
  induction n with
  | zero => rfl
  | succ n ih =>
    rw [List.replicate_succ, Text.byteLength_cons, ih, Nat.add_comm]
    rfl

lemma extent_masked (s : Segment) : extent s.masked = Text.byteLength s.text := by
  cases s with
  | unknown c => rw [masked, extent_blanks, byteLength_replicate]; rfl
  | blank c => simp [masked]
  | token t cs => simp [masked]

end Segment

lemma extent_flatMap_masked (segs : List Segment) :
    extent (segs.flatMap Segment.masked) = extent segs := by
  induction segs with
  | nil => rfl
  | cons s segs ih =>
    rw [List.flatMap_cons, extent_append, extent_cons, ih, Segment.extent_masked]

lemma respaced_masked (segs : List Segment) : Respaced segs (segs.flatMap Segment.masked) := by
  have hspace : Text.isWhiteSpace ' ' = true := by decide
  induction segs with
  | nil => exact .nil
  | cons s segs ih =>
    rw [List.flatMap_cons]
    cases s with
    | blank | token => exact .keep _ ih
    | unknown c =>
      -- The first space takes the place of the character, the others are put in behind it.
      obtain ⟨n, hn⟩ : ∃ n, c.utf8Size = n + 1 :=
        Nat.exists_eq_add_one_of_ne_zero (Nat.ne_of_gt c.utf8Size_pos)
      rw [Segment.masked, hn, List.replicate_succ]
      refine .replace hspace (ih.blanks_append fun d hd => ?_)
      rw [List.eq_of_mem_replicate hd]
      exact hspace

lemma filterMap_item?_masked (offset : Nat) (segs : List Segment) :
    (place offset (segs.flatMap Segment.masked)).filterMap Placed.item? =
      (place offset segs).filterMap Placed.item? := by
  induction segs generalizing offset with
  | nil => rfl
  | cons s segs ih =>
    rw [List.flatMap_cons, place_append, List.filterMap_append, Segment.extent_masked, ih,
      place_cons]
    cases s with
    | unknown c => exact congrArg (· ++ _) (filterMap_place_blanks (fun _ _ => rfl) offset _)
    | blank c => rfl
    | token t cs => rfl

lemma filterMap_unknown?_masked (offset : Nat) (segs : List Segment) :
    (place offset (segs.flatMap Segment.masked)).filterMap Placed.unknown? = [] := by
  induction segs generalizing offset with
  | nil => rfl
  | cons s segs ih =>
    rw [List.flatMap_cons, place_append, List.filterMap_append, ih, List.append_nil]
    cases s with
    | unknown c => exact filterMap_place_blanks (fun _ _ => rfl) offset _
    | blank c => rfl
    | token t cs => rfl

lemma Covers.of_unknown {line : String} {u : UnknownCharacter} {before after : List Segment}
    (hsegs : segments line.toList = before ++ .unknown u.char :: after)
    (hoffset : u.offset = extent before) : Covers (segments line.toList) before u.offset := by
  have hc := u.char.utf8Size_pos
  refine ⟨_, after, hsegs, Nat.le_of_eq hoffset.symm, ?_⟩
  simp only [Segment.text, Text.byteLength_cons, Text.byteLength_nil]
  omega

lemma spacedOut_text {line : String} {before after : List Segment} {s : Segment}
    (h : segments line.toList = before ++ s :: after) (hknown : ∀ c, s ≠ .unknown c) :
    spacedOut (scan line).unknown (extent before) s.text = s.text := by
  -- A character on record inside `s` would be `s`, as only one segment covers its byte.
  refine spacedOut_eq_self fun u hu hrange => ?_
  obtain ⟨before', after', hsegs, hoffset⟩ := mem_unknown_iff.mp hu
  obtain rfl := (Covers.of_unknown hsegs hoffset).unique ⟨s, after, h, hrange.1, hrange.2⟩
  rw [h] at hsegs
  exact hknown u.char (List.cons.inj (List.append_cancel_left hsegs)).1

lemma spacedOut_segments {line : String} {before after : List Segment}
    (h : segments line.toList = before ++ after) :
    spacedOut (scan line).unknown (extent before) (after.flatMap Segment.text) =
      (after.flatMap Segment.masked).flatMap Segment.text := by
  induction after generalizing before with
  | nil => rfl
  | cons s after ih =>
    have hnext := @ih (before ++ [s]) (by simpa using h)
    rw [extent_append, extent_cons, extent_nil, Nat.add_zero] at hnext
    rw [List.flatMap_cons, spacedOut_append, hnext, List.flatMap_cons, List.flatMap_append]
    congr 1
    cases s with
    | blank c => simpa [Segment.masked] using spacedOut_text h nofun
    | token t cs => simpa [Segment.masked] using spacedOut_text h nofun
    | unknown c =>
      have hmem : (⟨c, extent before⟩ : UnknownCharacter) ∈ (scan line).unknown :=
        mem_unknown_iff.mpr ⟨before, after, h, rfl⟩
      simp [Segment.text, Segment.masked, spacedOut, hmem]

lemma toList_withoutUnknown (line : String) :
    (withoutUnknown line).toList =
      ((segments line.toList).flatMap Segment.masked).flatMap Segment.text := by
  have h := @spacedOut_segments line [] _ rfl
  rw [flatMap_text_segments] at h
  rw [withoutUnknown, String.toList_ofList]
  exact h

theorem scan_withoutUnknown (line : String) :
    scan (withoutUnknown line) = ⟨(scan line).items, []⟩ := by
  have htext := toList_withoutUnknown line
  have hsegs : segments (withoutUnknown line).toList =
      (segments line.toList).flatMap Segment.masked := by
    rw [htext]
    exact (respaced_masked _).segments_eq
  have hsize : (withoutUnknown line).utf8ByteSize = line.utf8ByteSize := by
    rw [← extent_segments, hsegs, extent_flatMap_masked, extent_segments]
  have hclosing : Item.closing (withoutUnknown line) = Item.closing line := by
    rw [Item.closing, Item.closing, Span.past, Span.past, hsize]
  simp only [scan, hsegs, filterMap_item?_masked, filterMap_unknown?_masked, hclosing]

end LineCalculator
