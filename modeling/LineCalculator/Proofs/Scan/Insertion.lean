import LineCalculator.Proofs.Grammar.Places
import LineCalculator.Proofs.Scan.Spacing
import Mathlib.Data.List.Basic

/-!
# White space put into a line

A place that is not inside an item is a place between two segments. White space put in there leaves
the scan as it was, except that what stands behind it is moved.
-/
namespace LineCalculator

/-- A span after `width` bytes have been put in at the byte `cut`. -/
def Span.moved (cut width : Nat) (s : Span) : Span :=
  if s.start < cut then s else ⟨s.start + width, s.stop + width⟩

def UnknownCharacter.respan (f : Span → Span) (u : UnknownCharacter) : UnknownCharacter :=
  { u with offset := (f u.span).start }

def Scan.respan (f : Span → Span) (s : Scan) : Scan :=
  ⟨s.items.map (Item.respan f), s.unknown.map (UnknownCharacter.respan f)⟩

def Placed.moved (cut width : Nat) (p : Placed) : Placed :=
  if p.offset < cut then p else ⟨p.offset + width, p.segment⟩

namespace Placed
variable {cut width : Nat} {p : Placed}

lemma item?_moved (h : 0 < p.finish) :
    (p.moved cut width).item? = p.item?.map (Item.respan (Span.moved cut width)) := by
  obtain ⟨offset, seg⟩ := p
  cases seg with
  | blank | unknown =>
    unfold moved
    split <;> rfl
  | token t cs =>
    change 0 < offset + Text.byteLength cs at h
    by_cases hoffset : offset < cut
    · simp [moved, item?, Item.respan, Span.moved, hoffset]
    · have hstop : offset + width + Text.byteLength cs - 1 =
          offset + Text.byteLength cs - 1 + width := by omega
      simp [moved, item?, finish, Segment.text, Item.respan, Span.moved, hoffset, hstop]

lemma unknown?_moved :
    (p.moved cut width).unknown? =
      p.unknown?.map (UnknownCharacter.respan (Span.moved cut width)) := by
  obtain ⟨offset, seg⟩ := p
  by_cases hoffset : offset < cut
  · cases seg <;>
      simp [moved, unknown?, UnknownCharacter.respan, UnknownCharacter.span, Span.moved, hoffset]
  · cases seg <;>
      simp [moved, unknown?, UnknownCharacter.respan, UnknownCharacter.span, Span.moved, hoffset]

end Placed

lemma Item.respan_closing {line longer : String} {cut width : Nat} (hcut : cut ≤ line.utf8ByteSize)
    (hsize : longer.utf8ByteSize = line.utf8ByteSize + width) :
    (closing line).respan (Span.moved cut width) = closing longer := by
  have hpast : ¬ (closing line).span.start < cut := Nat.not_lt.mpr hcut
  rw [respan, Span.moved, if_neg hpast, closing, closing, Span.past, Span.past, hsize]
  rfl

lemma place_add (offset width : Nat) (segs : List Segment) :
    place (offset + width) segs =
      (place offset segs).map fun p => ⟨p.offset + width, p.segment⟩ := by
  induction segs generalizing offset with
  | nil => rfl
  | cons s segs ih =>
    rw [place_cons, place_cons, List.map_cons, ← ih, Nat.add_right_comm]

section Insertion
variable {early late : List Segment} {w : List Char}

lemma offset_lt_of_mem_place (hearly : ∀ s ∈ early, s.WellFormed) {p : Placed}
    (hp : p ∈ place 0 early) : p.offset < extent early := by
  obtain ⟨before, after, hsegs, hoffset⟩ := mem_place_iff.mp hp
  have hpos := Segment.byteLength_text_pos (hearly p.segment (by simp [hsegs]))
  rw [hoffset, hsegs, extent_append, extent_cons]
  omega

lemma map_moved_place (hearly : ∀ s ∈ early, s.WellFormed) (width : Nat) :
    (place 0 (early ++ late)).map (Placed.moved (extent early) width) =
      place 0 early ++ place (extent early + width) late := by
  rw [place_append, List.map_append, Nat.zero_add, place_add]
  congr 1
  · refine List.map_congr_left (g := id) (fun p hp => ?_) |>.trans (List.map_id _)
    exact if_pos (offset_lt_of_mem_place hearly hp)
  · refine List.map_congr_left fun p hp => if_neg ?_
    obtain ⟨before, after, -, hoffset⟩ := mem_place_iff.mp hp
    omega

lemma filterMap_place_insert {β : Type} {g : Placed → Option β} {f : β → β}
    (hblank : ∀ offset c, g ⟨offset, .blank c⟩ = none) (hearly : ∀ s ∈ early, s.WellFormed)
    (hmoved : ∀ p ∈ place 0 (early ++ late),
      g (p.moved (extent early) (Text.byteLength w)) = (g p).map f) :
    (place 0 (early ++ blanks w ++ late)).filterMap g =
      ((place 0 (early ++ late)).filterMap g).map f := by
  have hplaces : (place 0 (early ++ blanks w ++ late)).filterMap g =
      ((place 0 (early ++ late)).map
        (Placed.moved (extent early) (Text.byteLength w))).filterMap g := by
    rw [map_moved_place hearly, place_append, place_append, List.filterMap_append,
      List.filterMap_append, filterMap_place_blanks hblank, extent_append, extent_blanks,
      List.append_nil, Nat.zero_add, List.filterMap_append]
  rw [hplaces, List.filterMap_map, List.map_filterMap]
  exact List.filterMap_congr hmoved

end Insertion

lemma exists_of_flatMap_text_eq_append {segs : List Segment} {a b : List Char}
    (h : segs.flatMap Segment.text = a ++ b) :
    (∃ early late, segs = early ++ late ∧ early.flatMap Segment.text = a) ∨
      ∃ early s late front back, segs = early ++ s :: late ∧ s.text = front ++ back ∧
        front ≠ [] ∧ back ≠ [] ∧ early.flatMap Segment.text ++ front = a := by
  rw [List.flatMap_def, List.flatten_eq_append_iff] at h
  rcases h with ⟨as, bs, hsegs, rfl, -⟩ | ⟨as, front, c, cs, ds, hsegs, rfl, -⟩
  · obtain ⟨early, late, rfl, rfl, -⟩ := List.map_eq_append_iff.mp hsegs
    exact .inl ⟨early, late, rfl, List.flatMap_def⟩
  · obtain ⟨early, more, rfl, rfl, hmore⟩ := List.map_eq_append_iff.mp hsegs
    obtain ⟨s, late, rfl, htext, -⟩ := List.map_eq_cons_iff.mp hmore
    by_cases hfront : front = []
    · exact .inl ⟨early, s :: late, rfl, by rw [hfront, List.append_nil, List.flatMap_def]⟩
    · exact .inr ⟨early, s, late, front, c :: cs, rfl, htext, hfront, by simp,
        by rw [List.flatMap_def]⟩

lemma Segment.eq_token_of_text {s : Segment} {front back : List Char} (h : s.text = front ++ back)
    (hfront : front ≠ []) (hback : back ≠ []) : ∃ t, s = token t (front ++ back) := by
  have hlength := congrArg List.length h
  have hpos := List.length_pos_iff.mpr hfront
  have hpos' := List.length_pos_iff.mpr hback
  rw [List.length_append] at hlength
  cases s with
  | blank c | unknown c =>
    rw [text, List.length_singleton] at hlength
    omega
  | token t cs => exact ⟨t, congrArg (token t) h⟩

lemma mem_items_of_token {line : String} {before after : List Segment} {t : Token} {cs : List Char}
    (h : segments line.toList = before ++ .token t cs :: after) :
    ⟨t, String.ofList cs, ⟨extent before, extent before + Text.byteLength cs - 1⟩⟩ ∈
      (scan line).items :=
  List.mem_of_getElem? ((scan_records line).item before t cs after h)

theorem exists_segments_of_cut {a b : String}
    (h : ∀ i ∈ (scan (a ++ b)).items,
      ¬ (i.span.start < a.utf8ByteSize ∧ a.utf8ByteSize ≤ i.span.stop)) :
    ∃ early late, segments (a ++ b).toList = early ++ late ∧
      early.flatMap Segment.text = a.toList := by
  have hcover : (segments (a ++ b).toList).flatMap Segment.text = a.toList ++ b.toList := by
    rw [flatMap_text_segments, String.toList_append]
  rcases exists_of_flatMap_text_eq_append hcover with
    hcut | ⟨early, s, late, front, back, hsegs, htext, hfront, hback, hsize⟩
  · exact hcut
  · obtain ⟨t, rfl⟩ := Segment.eq_token_of_text htext hfront hback
    refine absurd ?_ (h _ (mem_items_of_token hsegs))
    have hbytes : a.utf8ByteSize = extent early + Text.byteLength front := by
      rw [← Text.byteLength_toList, ← hsize, Text.byteLength_append, extent]
    have hlow := Text.length_le_byteLength front
    have hhigh := Text.length_le_byteLength back
    have hpos := List.length_pos_iff.mpr hfront
    have hpos' := List.length_pos_iff.mpr hback
    rw [hbytes, Text.byteLength_append]
    dsimp only
    omega

/-- White space at a place that is not inside an item moves what stands behind it, and does nothing
else to the scan. -/
theorem scan_insert {a b w : String}
    (h : ∀ i ∈ (scan (a ++ b)).items,
      ¬ (i.span.start < a.utf8ByteSize ∧ a.utf8ByteSize ≤ i.span.stop))
    (hw : ∀ c ∈ w.toList, Text.isWhiteSpace c = true) :
    scan (a ++ w ++ b) =
      (scan (a ++ b)).respan (Span.moved a.utf8ByteSize w.utf8ByteSize) := by
  obtain ⟨early, late, hsegs, ha⟩ := exists_segments_of_cut h
  have hcover := flatMap_text_segments (a ++ b).toList
  rw [hsegs, List.flatMap_append, ha, String.toList_append] at hcover
  have hb : late.flatMap Segment.text = b.toList := List.append_cancel_left hcover
  have hrespaced : Respaced (segments (a ++ b).toList) (early ++ (blanks w.toList ++ late)) := by
    rw [hsegs]
    exact (Respaced.refl early).append ((Respaced.refl late).blanks_append hw)
  have hinserted : segments (a ++ w ++ b).toList = early ++ blanks w.toList ++ late := by
    have htext := hrespaced.segments_eq
    simpa [ha, hb] using htext
  have hform : ∀ s ∈ early ++ late, s.WellFormed := by
    rw [← hsegs]
    exact (maximalMunch_segments (a ++ b).toList).formed
  have hearly : ∀ s ∈ early, s.WellFormed := fun s hs => hform s (List.mem_append_left _ hs)
  have hextent : extent early = a.utf8ByteSize := by
    rw [extent, ha, Text.byteLength_toList]
  have hpos : ∀ p ∈ place 0 (early ++ late), 0 < p.finish := by
    rw [← hsegs]
    exact fun p => finish_pos
  have hitems := filterMap_place_insert (g := Placed.item?) (w := w.toList) (fun _ _ => rfl) hearly
    fun p hp => Placed.item?_moved (hpos p hp)
  have hunknown := filterMap_place_insert (g := Placed.unknown?) (w := w.toList) (fun _ _ => rfl)
    hearly fun p (_ : p ∈ place 0 (early ++ late)) => Placed.unknown?_moved
  have hclosing : Item.closing (a ++ w ++ b) =
      (Item.closing (a ++ b)).respan (Span.moved a.utf8ByteSize w.utf8ByteSize) := by
    refine (Item.respan_closing ?_ ?_).symm
    · rw [String.utf8ByteSize_append]
      omega
    · simp only [String.utf8ByteSize_append]
      omega
  rw [hextent, Text.byteLength_toList] at hitems hunknown
  simp only [scan, Scan.respan, hinserted, hsegs, hitems, hunknown, hclosing, List.map_append,
    List.map_cons, List.map_nil]

end LineCalculator
