import LineCalculator.Proofs.Scan.Segmentation
import LineCalculator.Scan
import Mathlib.Logic.ExistsUnique
import Mathlib.Tactic.Common

/-!
# Places of segments

A segment starts at the byte at which the segments before it end. The items of a line and its
unknown characters are read off its segments at these places, and the segments share out the bytes
of the line among them.
-/
namespace LineCalculator

def extent (segs : List Segment) : Nat := Text.byteLength (segs.flatMap Segment.text)

@[simp] lemma extent_nil : extent [] = 0 := rfl

@[simp] lemma extent_cons (s : Segment) (segs : List Segment) :
    extent (s :: segs) = Text.byteLength s.text + extent segs := by simp [extent]

@[simp] lemma extent_append (as bs : List Segment) : extent (as ++ bs) = extent as + extent bs := by
  simp [extent]

lemma place_append (offset : Nat) (as bs : List Segment) :
    place offset (as ++ bs) = place offset as ++ place (offset + extent as) bs := by
  induction as generalizing offset with
  | nil => simp
  | cons s as ih => simp [ih, Nat.add_assoc]

lemma mem_place_iff {offset : Nat} {segs : List Segment} {p : Placed} :
    p ∈ place offset segs ↔ ∃ before after, segs = before ++ p.segment :: after ∧
      p.offset = offset + extent before := by
  constructor
  · intro h
    induction segs generalizing offset with
    | nil => simp at h
    | cons s segs ih =>
      rcases List.mem_cons.mp h with rfl | h
      · exact ⟨[], segs, rfl, rfl⟩
      · obtain ⟨before, after, hsegs, hoffset⟩ := ih h
        exact ⟨s :: before, after, by simp [← hsegs], by rw [hoffset, extent_cons]; omega⟩
  · rintro ⟨before, after, rfl, hoffset⟩
    rw [place_append, List.mem_append, place_cons, ← hoffset]
    exact .inr List.mem_cons_self

lemma pairwise_place (offset : Nat) (segs : List Segment) :
    (place offset segs).Pairwise fun p q => p.finish ≤ q.offset := by
  induction segs generalizing offset with
  | nil => exact .nil
  | cons s segs ih =>
    refine .cons (fun q hq => ?_) (ih _)
    obtain ⟨before, _, _, hoffset⟩ := mem_place_iff.mp hq
    rw [hoffset]
    exact Nat.le_add_right _ _

lemma finish_le_of_mem_place {offset : Nat} {segs : List Segment} {p : Placed}
    (h : p ∈ place offset segs) : p.finish ≤ offset + extent segs := by
  obtain ⟨before, after, rfl, hoffset⟩ := mem_place_iff.mp h
  rw [Placed.finish, hoffset, extent_append, extent_cons]
  omega

namespace Segment

def isToken : Segment → Bool
  | token .. => true
  | _ => false

def isUnknown : Segment → Bool
  | unknown _ => true
  | _ => false

lemma byteLength_text_pos {s : Segment} (h : s.WellFormed) : 0 < Text.byteLength s.text := by
  have hend : ∀ next ∈ ([] : List Char).head?, s.EndsBefore next := by simp
  obtain ⟨c, cs, htext, -⟩ := first_of_wellFormed h hend
  have hc := c.utf8Size_pos
  rw [htext, Text.byteLength_cons]
  omega

end Segment

lemma length_filterMap_place {β : Type} {g : Placed → Option β} {f : Segment → Bool}
    (h : ∀ p, (g p).isSome = f p.segment) (offset : Nat) (segs : List Segment) :
    ((place offset segs).filterMap g).length = segs.countP f := by
  have hcomp : (fun p => (g p).isSome) = f ∘ Placed.segment := funext h
  rw [List.length_filterMap_eq_countP, hcomp, ← List.countP_map, map_segment_place]

lemma isSome_item? (p : Placed) : p.item?.isSome = p.segment.isToken := by
  cases hs : p.segment <;> simp [Placed.item?, hs, Segment.isToken]

lemma isSome_unknown? (p : Placed) : p.unknown?.isSome = p.segment.isUnknown := by
  cases hs : p.segment <;> simp [Placed.unknown?, hs, Segment.isUnknown]

/-- The items of a scan are the tokens among the segments, in order and each at its bytes, and one
end of input; its unknown characters are the other characters among them. -/
structure Scan.Records (line : String) (segs : List Segment) (s : Scan) : Prop where
  itemCount : s.items.length = segs.countP Segment.isToken + 1
  item : ∀ before t cs after, segs = before ++ .token t cs :: after →
    s.items[before.countP Segment.isToken]? =
      some ⟨t, String.ofList cs, ⟨extent before, extent before + Text.byteLength cs - 1⟩⟩
  ending : s.items.getLast? = some ⟨.endOfInput, "", ⟨line.utf8ByteSize, line.utf8ByteSize⟩⟩
  unknownCount : s.unknown.length = segs.countP Segment.isUnknown
  unknown : ∀ before c after, segs = before ++ .unknown c :: after →
    s.unknown[before.countP Segment.isUnknown]? = some ⟨c, extent before⟩

lemma scan_records (line : String) : (scan line).Records line (segments line.toList) where
  itemCount := by simp [scan, length_filterMap_place isSome_item?]
  item before t cs after h := by
    rw [← length_filterMap_place isSome_item? 0 before]
    simp [scan, h, place_append, Placed.item?, Placed.finish, Segment.text]
  ending := items_scan_getLast? line
  unknownCount := length_filterMap_place isSome_unknown? 0 _
  unknown before c after h := by
    rw [← length_filterMap_place isSome_unknown? 0 before]
    simp [scan, h, place_append, Placed.unknown?]

lemma extent_segments (line : String) : extent (segments line.toList) = line.utf8ByteSize := by
  rw [extent, flatMap_text_segments, Text.byteLength_toList]

lemma exists_of_item? {segs : List Segment} {i : Item}
    (h : i ∈ (place 0 segs).filterMap Placed.item?) :
    ∃ before t cs after, segs = before ++ .token t cs :: after ∧
      i = ⟨t, String.ofList cs, ⟨extent before, extent before + Text.byteLength cs - 1⟩⟩ := by
  obtain ⟨⟨offset, seg⟩, hp, hi⟩ := List.mem_filterMap.mp h
  obtain ⟨before, after, hsegs, hoffset⟩ := mem_place_iff.mp hp
  obtain rfl : offset = extent before := by simpa using hoffset
  cases seg with
  | blank | unknown => simp [Placed.item?] at hi
  | token t cs => exact ⟨before, t, cs, after, hsegs, (Option.some.inj hi).symm⟩

lemma item_slice {line : String} {i : Item}
    (h : i ∈ (place 0 (segments line.toList)).filterMap Placed.item?) :
    i.token ≠ .endOfInput ∧ i.span.start ≤ i.span.stop ∧ i.span.slice? line = some i.lexeme := by
  obtain ⟨before, t, cs, after, hsegs, rfl⟩ := exists_of_item? h
  have hmunch := maximalMunch_segments line.toList
  have hform : (Segment.token t cs).WellFormed := hmunch.formed _ (by simp [hsegs])
  have hpos := Segment.byteLength_text_pos hform
  have hcover := hmunch.cover
  rw [hsegs, List.flatMap_append, List.flatMap_cons] at hcover
  change 0 < Text.byteLength cs at hpos
  refine ⟨?_, by dsimp only; omega, Span.slice?_eq_some_iff.mpr ⟨by dsimp only; omega, ?_⟩⟩
  · rintro rfl
    obtain ⟨c, -, hc⟩ := hform
    simp [symbols] at hc
  · refine ⟨before.flatMap Segment.text, after.flatMap Segment.text, ?_, rfl, ?_⟩
    · simpa [Segment.text] using hcover.symm
    · rw [String.toList_ofList]
      dsimp only
      omega

lemma wellFormed_of_mem_items {line : String} {i : Item} (h : i ∈ (scan line).items)
    (ht : i.token ≠ .endOfInput) : (Segment.token i.token i.lexeme.toList).WellFormed := by
  rcases List.mem_append.mp h with h | h
  · obtain ⟨before, t, cs, after, hsegs, rfl⟩ := exists_of_item? h
    rw [String.toList_ofList]
    exact (maximalMunch_segments line.toList).formed (.token t cs) (by simp [hsegs])
  · obtain rfl := List.mem_singleton.mp h
    exact absurd rfl ht

lemma span_of_item? {p : Placed} {i : Item} (h : p.item? = some i) :
    i.span = ⟨p.offset, p.finish - 1⟩ := by
  obtain ⟨offset, seg⟩ := p
  cases seg with
  | blank | unknown => simp [Placed.item?] at h
  | token t cs => cases h; rfl

lemma finish_pos {line : String} {p : Placed} (h : p ∈ place 0 (segments line.toList)) :
    0 < p.finish := by
  obtain ⟨before, after, hsegs, -⟩ := mem_place_iff.mp h
  have hpos := Segment.byteLength_text_pos
    ((maximalMunch_segments line.toList).formed p.segment (by simp [hsegs]))
  exact Nat.lt_add_left _ hpos

lemma pairwise_items (line : String) :
    (scan line).items.Pairwise fun a b => a.span.stop < b.span.start := by
  refine List.pairwise_append.mpr ⟨?_, List.pairwise_singleton _ _, ?_⟩
  · rw [List.pairwise_filterMap]
    refine (pairwise_place 0 (segments line.toList)).imp_of_mem fun hp _ hle a ha b hb => ?_
    have hpos := finish_pos hp
    rw [span_of_item? ha, span_of_item? hb]
    dsimp only
    omega
  · intro a ha b hb
    obtain rfl := List.mem_singleton.mp hb
    obtain ⟨p, hp, ha⟩ := List.mem_filterMap.mp ha
    have hpos := finish_pos hp
    have hle := finish_le_of_mem_place hp
    rw [extent_segments] at hle
    rw [span_of_item? ha]
    change p.finish - 1 < line.utf8ByteSize
    omega

/-- The segment right after the segments `before` covers the byte `n`. -/
def Covers (segs before : List Segment) (n : Nat) : Prop :=
  ∃ s after, segs = before ++ s :: after ∧ extent before ≤ n ∧
    n < extent before + Text.byteLength s.text

lemma exists_covers {segs : List Segment} {n : Nat} (h : n < extent segs) :
    ∃ before, Covers segs before n := by
  induction segs generalizing n with
  | nil => simp at h
  | cons s segs ih =>
    rw [extent_cons] at h
    by_cases hs : n < Text.byteLength s.text
    · exact ⟨[], s, segs, rfl, Nat.zero_le _, by simpa using hs⟩
    · obtain ⟨before, t, after, hsegs, hle, hlt⟩ := ih (n := n - Text.byteLength s.text) (by omega)
      refine ⟨s :: before, t, after, by rw [hsegs]; rfl, ?_, ?_⟩
      · rw [extent_cons]
        omega
      · rw [extent_cons]
        omega

lemma Covers.unique {segs before before' : List Segment} {n : Nat} (h : Covers segs before n)
    (h' : Covers segs before' n) : before = before' := by
  obtain ⟨s, after, hsegs, hle, hlt⟩ := h
  obtain ⟨s', after', hsegs', hle', hlt'⟩ := h'
  rcases List.append_eq_append_iff.mp (hsegs.symm.trans hsegs') with
    ⟨mid, hbefore, hafter⟩ | ⟨mid, hbefore, hafter⟩
  · cases mid with
    | nil => simpa using hbefore.symm
    | cons t mid =>
      obtain ⟨rfl, -⟩ := List.cons.inj hafter
      rw [hbefore, extent_append, extent_cons] at hle'
      omega
  · cases mid with
    | nil => simpa using hbefore
    | cons t mid =>
      obtain ⟨rfl, -⟩ := List.cons.inj hafter
      rw [hbefore, extent_append, extent_cons] at hle
      omega

/-- A line has exactly one segmentation by maximal munch. Its scan records the tokens and the
unknown characters among the segments at their bytes, with one end of input past the last byte.
The items' spans are in order and apart, each cuts its item's text out of the line, and every byte
of the line belongs to exactly one segment. -/
theorem scan_maximalMunch (line : String) :
    ∃ segs, MaximalMunch line.toList segs ∧
      (∀ other, MaximalMunch line.toList other → other = segs) ∧
      (scan line).Records line segs ∧
      (∀ i ∈ (scan line).items.dropLast,
        i.token ≠ .endOfInput ∧ i.span.start ≤ i.span.stop ∧ i.span.slice? line = some i.lexeme) ∧
      (scan line).items.Pairwise (fun a b => a.span.stop < b.span.start) ∧
      ∀ n < line.utf8ByteSize, ∃! before, Covers segs before n := by
  refine ⟨segments line.toList, maximalMunch_segments _, fun _ h => h.eq_segments,
    scan_records line, fun i hi => ?_, pairwise_items line, fun n hn => ?_⟩
  · exact item_slice (by simpa [scan] using hi)
  · obtain ⟨before, h⟩ := exists_covers (n := n) (by rw [extent_segments]; exact hn)
    exact ⟨before, h, fun other h' => h'.unique h⟩

end LineCalculator
