import LineCalculator.Item
import LineCalculator.Segment

/-!
# The scan of a line

The tokens among a line's segments become items, placed by their bytes and closed by the end of
input. Characters that belong to no token are set aside with their places.
-/
namespace LineCalculator

/-- A character that belongs to no token, and the byte at which it starts. -/
structure UnknownCharacter where
  char : Char
  offset : Nat
  deriving DecidableEq, Repr

namespace UnknownCharacter

/-- The span on record for the character: the byte at which it starts. -/
def span (u : UnknownCharacter) : Span := Span.single u.offset

def message (u : UnknownCharacter) : String := "Unknown character: " ++ String.singleton u.char

end UnknownCharacter

/-- A segment and the byte at which it starts. -/
structure Placed where
  offset : Nat
  segment : Segment
  deriving DecidableEq, Repr

namespace Placed

def finish (p : Placed) : Nat := p.offset + Text.byteLength p.segment.text

def item? (p : Placed) : Option Item :=
  match p.segment with
  | .token t cs => some ⟨t, String.ofList cs, ⟨p.offset, p.finish - 1⟩⟩
  | _ => none

def unknown? (p : Placed) : Option UnknownCharacter :=
  match p.segment with
  | .unknown c => some ⟨c, p.offset⟩
  | _ => none

end Placed

/-- Segments that follow one another from the byte `offset` on. -/
def place : Nat → List Segment → List Placed
  | _, [] => []
  | offset, s :: rest => ⟨offset, s⟩ :: place (offset + Text.byteLength s.text) rest

structure Scan where
  items : List Item
  unknown : List UnknownCharacter
  deriving DecidableEq, Repr

/-- The items of a line and its unknown characters, each in the order of their places. -/
def scan (line : String) : Scan :=
  let placed := place 0 (segments line.toList)
  ⟨placed.filterMap Placed.item? ++ [Item.closing line], placed.filterMap Placed.unknown?⟩

@[simp] theorem place_nil (offset : Nat) : place offset [] = [] := rfl

@[simp] theorem place_cons (offset : Nat) (s : Segment) (rest : List Segment) :
    place offset (s :: rest) = ⟨offset, s⟩ :: place (offset + Text.byteLength s.text) rest := rfl

theorem map_segment_place (offset : Nat) (segs : List Segment) :
    (place offset segs).map Placed.segment = segs := by
  induction segs generalizing offset with
  | nil => rfl
  | cons s rest ih => simp [ih]

theorem items_scan_getLast? (line : String) :
    (scan line).items.getLast? = some (Item.closing line) := by simp [scan]

end LineCalculator
