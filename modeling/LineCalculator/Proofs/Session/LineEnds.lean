import LineCalculator.Proofs.Session.Transcript
import LineCalculator.Proofs.Text.Lines

/-!
# Ends of lines

A line of a content ends in a line feed, and a carriage return may stand before it; the last line
may have no end at all, unless it is empty. How the lines end is lost when they are read, so that a
run of the content depends on the lines alone.
-/
namespace LineCalculator
open Text

inductive LineEnd where
  | feed
  | returnFeed
  deriving DecidableEq, Repr

def LineEnd.text : LineEnd → List Char
  | feed => ['\n']
  | returnFeed => ['\r', '\n']

/-- A content is made of `lines`, each of which has one of the ends; the last line, if it is not
empty, may do without. -/
inductive Spelled : List String → List UInt8 → Prop
  | nil : Spelled [] []
  | unended {line : String} (nonempty : line ≠ "") : Spelled [line] (bytes line.toList)
  | cons (line : String) (ending : LineEnd) {lines : List String} {content : List UInt8}
      (rest : Spelled lines content) :
      Spelled (line :: lines) (bytes (line.toList ++ ending.text) ++ content)

namespace Text
variable {cs : List Char}

lemma decode_bytes (cs : List Char) : decode (bytes cs) = .ok (String.ofList cs) := by
  have htext := decode_toUTF8 (String.ofList cs)
  rwa [toList_toUTF8, String.toList_ofList] at htext

lemma bytes_ne_nil (h : cs ≠ []) : bytes cs ≠ [] := by
  obtain ⟨c, rest, rfl⟩ := List.exists_cons_of_ne_nil h
  intro hnil
  have hfirst := (List.append_eq_nil_iff.mp hnil).1
  exact String.utf8EncodeChar_ne_nil hfirst

lemma rawLines_of_notMem {front : List UInt8} (hne : front ≠ []) (h : lineFeed ∉ front) :
    rawLines front = [front] := by
  induction front with
  | nil => exact absurd rfl hne
  | cons b front ih =>
    obtain ⟨hb, hfront⟩ := not_or.mp (mt List.mem_cons.mpr h)
    cases front with
    | nil => exact if_neg (Ne.symm hb)
    | cons c front =>
      rw [rawLines_cons, ih (List.cons_ne_nil c front) hfront, consByte, if_neg (Ne.symm hb)]

lemma rawLines_ending (h : '\n' ∉ cs) (ending : LineEnd) (content : List UInt8) :
    rawLines (bytes (cs ++ ending.text) ++ content) =
      bytes (cs ++ ending.text) :: rawLines content := by
  -- Before the line feed stands the line, or the line with a carriage return.
  obtain ⟨front, hfront, hbytes⟩ :
      ∃ front, lineFeed ∉ front ∧ bytes (cs ++ ending.text) = front ++ [lineFeed] := by
    cases ending with
    | feed => exact ⟨bytes cs, lineFeed_not_mem_bytes h, bytes_append _ _⟩
    | returnFeed =>
      have hreturn : cs ++ LineEnd.returnFeed.text = cs ++ ['\r'] ++ ['\n'] := by
        rw [List.append_assoc]
        rfl
      refine ⟨bytes (cs ++ ['\r']), lineFeed_not_mem_bytes (by simpa using h), ?_⟩
      rw [hreturn]
      exact bytes_append _ _
  rw [hbytes, List.append_assoc, List.singleton_append, rawLines_append_lineFeed hfront]

lemma dropLineEnd_ending (h : cs.getLast? ≠ some '\r') (ending : LineEnd) :
    dropLineEnd (cs ++ ending.text) = cs := by
  cases ending with
  | feed => exact dropLineEnd_append h
  | returnFeed => simp [dropLineEnd, dropFinal, LineEnd.text]

lemma dropLineEnd_of_notMem (h : '\n' ∉ cs) : dropLineEnd cs = cs :=
  if_neg fun hlast => h (List.mem_of_getLast? hlast)

end Text

theorem Spelled.lines {lines : List String} {content : List UInt8}
    (hspelled : Spelled lines content)
    (h : ∀ line ∈ lines, '\n' ∉ line.toList ∧ line.toList.getLast? ≠ some '\r') :
    (Input.content content).lines = lines.map .ok := by
  have hread : ∀ content, (Input.content content).lines = (rawLines content).map fun raw =>
      (decode raw).map fun text => String.ofList (dropLineEnd text.toList) :=
    fun _ => List.map_map
  rw [hread]
  induction hspelled with
  | nil => rfl
  | @unended line nonempty =>
    have hline := (h line List.mem_cons_self).1
    have hne : bytes line.toList ≠ [] := bytes_ne_nil (by simpa using nonempty)
    rw [rawLines_of_notMem hne (lineFeed_not_mem_bytes hline), List.map_singleton, decode_bytes,
      Except.map, String.toList_ofList, dropLineEnd_of_notMem hline, String.ofList_toList]
    rfl
  | cons line ending rest ih =>
    obtain ⟨⟨hfeed, hreturn⟩, hlines⟩ := List.forall_mem_cons.mp h
    rw [rawLines_ending hfeed, List.map_cons, ih hlines, decode_bytes, Except.map,
      String.toList_ofList, dropLineEnd_ending hreturn, String.ofList_toList]
    rfl

/-- The ends of lines make no difference. Two contents of the same lines, which may end in any way
in each of them, are read as these lines, and running them comes to the same: the same summary or
fault, the same variables, and the same bytes on both channels. -/
theorem runInput_spelled {lines : List String} {first second : List UInt8}
    (h : ∀ line ∈ lines, '\n' ∉ line.toList ∧ line.toList.getLast? ≠ some '\r')
    (hfirst : Spelled lines first) (hsecond : Spelled lines second) (s : Session) :
    let run := Session.runInput (.content first) s
    let other := Session.runInput (.content second) s
    (Input.content first).lines = lines.map .ok ∧ (Input.content second).lines = lines.map .ok ∧
      run.value = other.value ∧ run.session.env = other.session.env ∧
      run.printBytes = other.printBytes ∧ run.errorBytes = other.errorBytes ∧
      run.events = other.events := by
  intro run other
  have hlines := hfirst.lines h
  have hlines' := hsecond.lines h
  have hrun : run = other := by
    change Session.runLines 1 _ s = Session.runLines 1 _ s
    rw [hlines, hlines']
  exact ⟨hlines, hlines', by rw [hrun], by rw [hrun], by rw [hrun], by rw [hrun], by rw [hrun]⟩

/-- Four lines with the variable `y`, the second one empty: with mixed ends and none at the last
line, and with the other end at every line. -/
theorem runInput_spelled_four :
    let lines := ["x = y", "", "# note", "x + (y"]
    let first := bytes "x = y\r\n\n# note\r\nx + (y".toList
    let second := bytes "x = y\n\r\n# note\nx + (y\r\n".toList
    let s : Session := { env := (∅ : Environment).set "y" 3, error := .limited 40 }
    let run := Session.runInput (.content first) s
    let other := Session.runInput (.content second) s
    Spelled lines first ∧ Spelled lines second ∧
      (∀ line ∈ lines, '\n' ∉ line.toList ∧ line.toList.getLast? ≠ some '\r') ∧
      (Input.content first).lines = lines.map .ok ∧ run.value = other.value ∧
      run.printBytes = other.printBytes ∧ run.errorBytes = other.errorBytes := by
  intro lines first second s run other
  have hfirst : Spelled lines first :=
    .cons _ .returnFeed (.cons _ .feed (.cons _ .returnFeed (.unended (by decide))))
  have hsecond : Spelled lines second :=
    .cons _ .feed (.cons _ .returnFeed (.cons _ .feed (.cons _ .returnFeed .nil)))
  have hlines : ∀ line ∈ lines, '\n' ∉ line.toList ∧ line.toList.getLast? ≠ some '\r' := by decide
  obtain ⟨hread, -, hvalue, -, hprint, herror, -⟩ := runInput_spelled hlines hfirst hsecond s
  exact ⟨hfirst, hsecond, hlines, hread, hvalue, hprint, herror⟩

end LineCalculator
