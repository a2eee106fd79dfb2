import LineCalculator.Channel
import LineCalculator.Text.Lines
import Mathlib.Tactic.Common

/-!
# Lines written and read

A line that is written ends at its line feed, and a character of two or more bytes has no line feed
among them. So lines that hold none come back from what was written of them.
-/
namespace LineCalculator

namespace Text

def bytes (cs : List Char) : List UInt8 := cs.flatMap String.utf8EncodeChar

@[simp] lemma bytes_append (as bs : List Char) : bytes (as ++ bs) = bytes as ++ bytes bs :=
  List.flatMap_append

lemma toList_toUTF8 (s : String) : s.toUTF8.data.toList = bytes s.toList := by
  rw [String.toUTF8_eq_toByteArray, ← String.utf8Encode_toList]
  exact List.toList_data_toByteArray

lemma lineFeed_not_mem_utf8EncodeChar {c : Char} (h : c ≠ '\n') :
    lineFeed ∉ String.utf8EncodeChar c := by
  have hc : c.val.toNat ≠ 10 := fun hn => h (Char.ext (UInt32.toNat.inj hn))
  -- Each byte is the code of the character itself, or at least 128.
  have hbyte : ∀ n, n ≠ 10 → n < 256 → lineFeed ≠ UInt8.ofNat n := by
    intro n hne hlt heq
    have hval := congrArg UInt8.toNat heq
    rw [UInt8.toNat_ofNat_of_lt' hlt] at hval
    exact hne hval.symm
  unfold String.utf8EncodeChar
  dsimp only
  split_ifs
  all_goals
    simp only [List.mem_cons, List.not_mem_nil, or_false, not_or]
    repeat' apply And.intro
  all_goals
    apply hbyte
    · omega
    · omega

lemma lineFeed_not_mem_bytes {cs : List Char} (h : '\n' ∉ cs) : lineFeed ∉ bytes cs := by
  intro hmem
  obtain ⟨c, hc, hbyte⟩ := List.mem_flatMap.mp hmem
  refine lineFeed_not_mem_utf8EncodeChar ?_ hbyte
  rintro rfl
  exact h hc

lemma rawLines_cons (b : UInt8) (bytes : List UInt8) :
    rawLines (b :: bytes) = consByte b (rawLines bytes) := rfl

lemma rawLines_append_lineFeed {front : List UInt8} (h : lineFeed ∉ front) (rest : List UInt8) :
    rawLines (front ++ lineFeed :: rest) = (front ++ [lineFeed]) :: rawLines rest := by
  induction front with
  | nil => simp [rawLines_cons, consByte]
  | cons b front ih =>
    obtain ⟨hb, hfront⟩ := not_or.mp (mt List.mem_cons.mpr h)
    rw [List.cons_append, rawLines_cons, ih hfront, consByte, if_neg (Ne.symm hb), List.cons_append]

/-- A content falls into lines at every border of lines. -/
theorem rawLines_append {front : List UInt8} (h : front = [] ∨ front.getLast? = some lineFeed)
    (rest : List UInt8) : rawLines (front ++ rest) = rawLines front ++ rawLines rest := by
  induction front with
  | nil => rfl
  | cons b front ih =>
    have hlast := h.resolve_left (List.cons_ne_nil b front)
    rw [List.cons_append, rawLines_cons, rawLines_cons]
    cases front with
    | nil =>
      obtain rfl : b = lineFeed := by simpa using hlast
      rfl
    | cons c front =>
      rw [List.getLast?_cons_cons] at hlast
      rw [ih (.inr hlast)]
      -- The rest of the front is not empty, so that `b` comes before one of its own lines.
      have hne : rawLines (c :: front) ≠ [] := fun hnil => by
        have hflat := flatten_rawLines (c :: front)
        simp [hnil] at hflat
      obtain ⟨line, lines, hlines⟩ := List.exists_cons_of_ne_nil hne
      rw [hlines, List.cons_append, consByte, consByte]
      split <;> rfl

def IsUtf8 (bytes : List UInt8) : Prop := ByteArray.IsValidUTF8 ⟨bytes.toArray⟩

instance : DecidablePred IsUtf8 := fun _ => inferInstanceAs (Decidable (ByteArray.IsValidUTF8 _))

lemma decode_of_isUtf8 {bytes : List UInt8} (h : IsUtf8 bytes) :
    decode bytes = .ok (String.fromUTF8 ⟨bytes.toArray⟩ h) := by
  have hvalid : String.fromUTF8? ⟨bytes.toArray⟩ = some (String.fromUTF8 _ h) := dif_pos h
  rw [decode, hvalid]

lemma exists_decode_of_isUtf8 {bytes : List UInt8} (h : IsUtf8 bytes) :
    ∃ text, decode bytes = .ok text := ⟨_, decode_of_isUtf8 h⟩

lemma decode_of_not_isUtf8 {bytes : List UInt8} (h : ¬ IsUtf8 bytes) :
    decode bytes = .error .invalidText := by
  have hinvalid : String.fromUTF8? ⟨bytes.toArray⟩ = none := dif_neg h
  rw [decode, hinvalid]

lemma decode_toUTF8 (s : String) : decode s.toUTF8.data.toList = .ok s := by
  have hvalid : String.fromUTF8? ⟨s.toUTF8.data⟩ = some s := by
    simp only [String.fromUTF8?, String.toUTF8_eq_toByteArray, dif_pos s.isValidUTF8]
    rfl
  rw [decode, Array.toArray_toList, hvalid]

lemma bytes_of_decode {raw : List UInt8} {text : String} (h : decode raw = .ok text) :
    bytes text.toList = raw := by
  by_cases hutf8 : IsUtf8 raw
  · rw [decode_of_isUtf8 hutf8] at h
    obtain rfl := Except.ok.inj h
    rw [← toList_toUTF8]
    rfl
  · rw [decode_of_not_isUtf8 hutf8] at h
    cases h

lemma dropLineEnd_subset (cs : List Char) : dropLineEnd cs ⊆ cs := by
  unfold dropLineEnd dropFinal
  split
  · split
    · exact fun c hc => List.dropLast_subset _ (List.dropLast_subset _ hc)
    · exact List.dropLast_subset cs
  · exact List.Subset.refl cs

lemma dropLineEnd_append {cs : List Char} (h : cs.getLast? ≠ some '\r') :
    dropLineEnd (cs ++ ['\n']) = cs := by
  simp [dropLineEnd, dropFinal, h]

end Text

open Text

lemma lineBytes_eq (line : String) : lineBytes line = bytes line.toList ++ [lineFeed] := by
  rw [lineBytes, toList_toUTF8, String.toList_append, bytes_append]
  rfl

lemma count_lineFeed_flatMap_lineBytes {lines : List String}
    (h : ∀ line ∈ lines, '\n' ∉ line.toList) :
    (lines.flatMap lineBytes).count lineFeed = lines.length := by
  induction lines with
  | nil => rfl
  | cons line rest ih =>
    obtain ⟨hline, hrest⟩ := List.forall_mem_cons.mp h
    have hcount := List.count_eq_zero_of_not_mem (lineFeed_not_mem_bytes hline)
    rw [List.flatMap_cons, lineBytes_eq, List.count_append, List.count_append, hcount, ih hrest,
      List.count_singleton_self, List.length_cons, Nat.zero_add, Nat.add_comm]

theorem rawLines_flatMap_lineBytes {lines : List String}
    (h : ∀ line ∈ lines, '\n' ∉ line.toList) :
    rawLines (lines.flatMap lineBytes) = lines.map lineBytes := by
  induction lines with
  | nil => rfl
  | cons line rest ih =>
    obtain ⟨hline, hrest⟩ := List.forall_mem_cons.mp h
    rw [List.flatMap_cons, List.map_cons, lineBytes_eq, List.append_assoc, List.singleton_append,
      rawLines_append_lineFeed (lineFeed_not_mem_bytes hline), ih hrest]

lemma lineBytes_injective : Function.Injective lineBytes := by
  intro line line' h
  rw [lineBytes_eq, lineBytes_eq, List.append_left_inj, ← toList_toUTF8, ← toList_toUTF8] at h
  have htext := congrArg decode h
  rw [decode_toUTF8, decode_toUTF8] at htext
  exact Except.ok.inj htext

lemma eq_of_flatMap_lineBytes {lines more : List String} (h : ∀ line ∈ lines, '\n' ∉ line.toList)
    (h' : ∀ line ∈ more, '\n' ∉ line.toList)
    (heq : lines.flatMap lineBytes = more.flatMap lineBytes) : lines = more := by
  have hlines := congrArg rawLines heq
  rw [rawLines_flatMap_lineBytes h, rawLines_flatMap_lineBytes h'] at hlines
  exact (List.map_inj_right fun _ _ hbytes => lineBytes_injective hbytes).mp hlines

theorem Input.lines_content {lines : List String}
    (h : ∀ line ∈ lines, '\n' ∉ line.toList ∧ line.toList.getLast? ≠ some '\r') :
    (Input.content (lines.flatMap lineBytes)).lines = lines.map .ok := by
  rw [Input.lines, Input.rawLines, rawLines_flatMap_lineBytes fun line hline => (h line hline).1,
    List.map_map, List.map_map]
  refine List.map_congr_left fun line hline => ?_
  have hend : dropLineEnd (line ++ "\n").toList = line.toList := by
    rw [String.toList_append]
    exact dropLineEnd_append (h line hline).2
  change (decode (lineBytes line)).map _ = _
  rw [lineBytes, decode_toUTF8, Except.map, hend, String.ofList_toList]

end LineCalculator
