import LineCalculator.Proofs.Scan.Masking
import Mathlib.Data.List.Pairwise

/-!
# Stretches of unknown characters

An unknown character is on record with the byte at which it starts, and its span is that byte
alone. The bytes that it takes are its stretch, which cuts it out of the line and meets no item and
no other unknown character. Span and stretch are the same for a character of one byte; the span of
any other character ends inside the character, where no text can be cut.
-/
namespace LineCalculator

def UnknownCharacter.stretch (u : UnknownCharacter) : Span :=
  ⟨u.offset, u.offset + u.char.utf8Size - 1⟩

namespace UnknownCharacter
variable {line : String} {u : UnknownCharacter}

lemma span_eq_stretch_iff : u.span = u.stretch ↔ u.char.utf8Size = 1 := by
  have hpos := u.char.utf8Size_pos
  simp only [span, stretch, Span.single, Span.mk.injEq, true_and]
  omega

lemma span_stop_le : u.span.stop ≤ u.stretch.stop := by
  have hpos := u.char.utf8Size_pos
  simp only [span, stretch, Span.single_stop]
  omega

lemma exists_parts (h : u ∈ (scan line).unknown) :
    ∃ before after, line.toList = before ++ u.char :: after ∧
      Text.byteLength before = u.offset := by
  obtain ⟨before, after, hsegs, hoffset⟩ := mem_unknown_iff.mp h
  refine ⟨before.flatMap Segment.text, after.flatMap Segment.text, ?_, hoffset.symm⟩
  rw [← flatMap_text_segments line.toList, hsegs, List.flatMap_append, List.flatMap_cons]
  rfl

theorem slice?_stretch (h : u ∈ (scan line).unknown) :
    u.stretch.slice? line = some (String.singleton u.char) := by
  obtain ⟨before, after, hline, hoffset⟩ := exists_parts h
  have hpos := u.char.utf8Size_pos
  refine Span.slice?_eq_some_iff.mpr ⟨?_, before, after, by simpa using hline, hoffset, ?_⟩
  · simp only [stretch]
    omega
  · simp only [stretch, String.toList_singleton, Text.byteLength_cons, Text.byteLength_nil]
    omega

/-- A single byte is no text where a longer character starts. -/
theorem slice?_span_eq_none (h : u ∈ (scan line).unknown) (hsize : u.char.utf8Size ≠ 1) :
    u.span.slice? line = none := by
  obtain ⟨before, after, hline, hoffset⟩ := exists_parts h
  refine Option.eq_none_iff_forall_ne_some.mpr fun t ht => ?_
  obtain ⟨-, before', after', hline', hstart, hlength⟩ := Span.slice?_eq_some_iff.mp ht
  rw [List.append_assoc] at hline'
  change Text.byteLength before' = u.offset at hstart
  -- Both ways of cutting the line at that byte are one, so that `t` begins with the character.
  have hcut := Text.splitBytes?_eq_some_iff.mpr ⟨hline, hoffset⟩
  rw [Text.splitBytes?_eq_some_iff.mpr ⟨hline', hstart⟩] at hcut
  obtain ⟨-, htail⟩ := Prod.mk.inj (Option.some.inj hcut)
  have hone : Text.byteLength t.toList = 1 := by
    simp only [span, Span.single_start, Span.single_stop] at hlength
    omega
  have hpos := u.char.utf8Size_pos
  cases hchars : t.toList with
  | nil => simp [hchars] at hone
  | cons c cs =>
    rw [hchars, List.cons_append] at htail
    obtain ⟨rfl, -⟩ := List.cons.inj htail
    rw [hchars, Text.byteLength_cons] at hone
    omega

end UnknownCharacter

lemma Placed.of_unknown? {p : Placed} {u : UnknownCharacter} (h : p.unknown? = some u) :
    p.segment = .unknown u.char ∧ p.offset = u.offset ∧ p.finish = u.stretch.stop + 1 := by
  obtain ⟨offset, seg⟩ := p
  cases seg with
  | blank | token => simp [unknown?] at h
  | unknown c =>
    obtain rfl : _ = u := Option.some.inj h
    have hpos := c.utf8Size_pos
    refine ⟨rfl, rfl, ?_⟩
    simp only [finish, Segment.text, UnknownCharacter.stretch, Text.byteLength_cons,
      Text.byteLength_nil]
    omega

/-- One of two segments ends before the other begins. -/
def Placed.Apart (p q : Placed) : Prop := p.finish ≤ q.offset ∨ q.finish ≤ p.offset

instance : Std.Symm Placed.Apart := ⟨fun _ _ => Or.symm⟩

lemma apart_of_mem_place {offset : Nat} {segs : List Segment} {p q : Placed}
    (hp : p ∈ place offset segs) (hq : q ∈ place offset segs) (hne : p ≠ q) : p.Apart q := by
  have hpairs : (place offset segs).Pairwise Placed.Apart :=
    (pairwise_place offset segs).imp Or.inl
  exact hpairs.forall hp hq hne

lemma pairwise_stretch (line : String) :
    (scan line).unknown.Pairwise fun u v => u.stretch.stop < v.stretch.start := by
  refine List.pairwise_filterMap.mpr ((pairwise_place 0 (segments line.toList)).imp ?_)
  intro p q hle u hu v hv
  obtain ⟨-, -, hfinish⟩ := Placed.of_unknown? hu
  obtain ⟨-, hoffset, -⟩ := Placed.of_unknown? hv
  rw [hfinish, hoffset] at hle
  exact hle

lemma stretch_apart_items {line : String} {u : UnknownCharacter} {i : Item}
    (hu : u ∈ (scan line).unknown) (hi : i ∈ (scan line).items) :
    u.stretch.stop < i.span.start ∨ i.span.stop < u.stretch.start := by
  obtain ⟨p, hp, hpu⟩ := List.mem_filterMap.mp hu
  obtain ⟨hseg, hoffset, hfinish⟩ := Placed.of_unknown? hpu
  rcases List.mem_append.mp hi with hi | hi
  · obtain ⟨q, hq, hqi⟩ := List.mem_filterMap.mp hi
    have hne : p ≠ q := by
      rintro rfl
      simp [Placed.item?, hseg] at hqi
    have hpos := finish_pos hq
    rw [span_of_item? hqi]
    change _ < q.offset ∨ q.finish - 1 < u.offset
    rcases apart_of_mem_place hp hq hne with hle | hle
    · exact .inl (by omega)
    · exact .inr (by omega)
  · obtain rfl := List.mem_singleton.mp hi
    have hle := finish_le_of_mem_place hp
    rw [extent_segments] at hle
    refine .inl ?_
    change _ < line.utf8ByteSize
    omega

/-- The places of the unknown characters of a line. The stretch of each cuts it out of the line,
and stretches meet neither one another nor an item. The span on record is the first byte of the
stretch: it cuts out the character if that is all of it, and otherwise nothing can be cut there. -/
theorem unknown_places (line : String) :
    (∀ u ∈ (scan line).unknown,
      u.stretch.slice? line = some (String.singleton u.char) ∧
      u.span.start = u.stretch.start ∧ u.span.stop ≤ u.stretch.stop ∧
      (u.span = u.stretch ↔ u.char.utf8Size = 1) ∧
      u.span.slice? line =
        if u.char.utf8Size = 1 then some (String.singleton u.char) else none) ∧
    ((scan line).unknown.Pairwise fun u v => u.stretch.stop < v.stretch.start) ∧
    ∀ u ∈ (scan line).unknown, ∀ i ∈ (scan line).items,
      u.stretch.stop < i.span.start ∨ i.span.stop < u.stretch.start := by
  refine ⟨fun u hu => ?_, pairwise_stretch line, fun u hu i hi => stretch_apart_items hu hi⟩
  have hstretch := UnknownCharacter.slice?_stretch hu
  refine ⟨hstretch, rfl, UnknownCharacter.span_stop_le, UnknownCharacter.span_eq_stretch_iff, ?_⟩
  split_ifs with hsize
  · rw [UnknownCharacter.span_eq_stretch_iff.mpr hsize, hstretch]
  · exact UnknownCharacter.slice?_span_eq_none hu hsize

/-- An accented letter takes two bytes, of which its span is the first. -/
theorem unknown_places_accent :
    ∃ u ∈ (scan "é").unknown, u.char = 'é' ∧ u.span = ⟨0, 0⟩ ∧ u.stretch = ⟨0, 1⟩ ∧
      u.span.slice? "é" ≠ some (String.singleton u.char) ∧ u.span.slice? "é" = none := by
  refine ⟨⟨'é', 0⟩, ?_, rfl, rfl, rfl, ?_, ?_⟩
  · decide +kernel
  · decide +kernel
  · decide +kernel

end LineCalculator
