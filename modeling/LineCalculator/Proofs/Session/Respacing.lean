import LineCalculator.Proofs.Scan.Insertion
import LineCalculator.Proofs.Scan.Masking
import LineCalculator.Proofs.Session.Reports
import Mathlib

/-!
# What a line comes to without its spacing

A line comes to what its items come to. Characters that belong to no token are reported, and are
otherwise as good as spaces; white space between tokens moves the places in errors and does nothing
else.
-/
namespace LineCalculator

lemma lineOutcome_congr {line other : String} (h : (scan line).items = (scan other).items)
    (env : Environment) : lineOutcome env line = lineOutcome env other := by
  rw [lineOutcome, lineOutcome, h]

lemma lineOutcome_respan {line other : String} {f : Span → Span}
    (h : (scan other).items = (scan line).items.map (Item.respan f)) (env : Environment) :
    lineOutcome env other =
      ((lineOutcome env line).1.mapError (LineError.respan f), (lineOutcome env line).2) := by
  have hparse := parse_respan f (scan line).items
  rw [← h] at hparse
  unfold lineOutcome
  cases hp : parse (scan line).items with
  | error e =>
    cases hp' : parse (scan other).items with
    | error e' =>
      rw [hp, hp'] at hparse
      obtain rfl : e' = e.respan f := by simpa [Except.map, Except.mapError] using hparse
      rfl
    | ok p' => simp [hp, hp', Except.map, Except.mapError] at hparse
  | ok p =>
    cases hp' : parse (scan other).items with
    | error e' => simp [hp, hp', Except.map, Except.mapError] at hparse
    | ok p' =>
      have hexpr : p'.expr = p.expr := by
        simpa [hp, hp', Except.map, Except.mapError] using hparse
      dsimp only
      rw [hexpr]
      cases (p.expr.evaluate env).result <;> rfl

namespace Session

/-- Unknown characters never influence a result. With a space for each byte of its unknown
characters a line has the same items and no unknown character; from the same variables it has the
same value or the same error, and leaves the same variables. The unknown characters are reported one
to a line, in the order of their places and before the failure of the line; without them nothing but
the failure is. -/
theorem tryLine_withoutUnknown {s t : Session} (henv : s.env = t.env) (line : String) :
    let clean := withoutUnknown line
    let unknown := (scan line).unknown.map Diagnostic.unknownCharacter
    let failure := match (tryLine line s).value with
      | .ok _ => []
      | .error e => [Diagnostic.failed e]
    (scan clean).items = (scan line).items ∧ (scan clean).unknown = [] ∧
    (tryLine clean t).value = (tryLine line s).value ∧
    (tryLine clean t).session.env = (tryLine line s).session.env ∧
    (scan line).unknown.Pairwise (fun u v => u.offset < v.offset) ∧
    (tryLine line s).diagnostics = unknown ∧ (tryLine clean t).diagnostics = [] ∧
    (valueOrZero line s).diagnostics = unknown ++ failure ∧
    (valueOrZero clean t).diagnostics = failure ∧
    (s.error.Works → (tryLine line s).errorBytes =
      (scan line).unknown.flatMap fun u =>
        lineBytes ("Unknown character: " ++ String.singleton u.char)) := by
  intro clean unknown failure
  have hscan : scan clean = ⟨(scan line).items, []⟩ := scan_withoutUnknown line
  have hitems : (scan clean).items = (scan line).items := by rw [hscan]
  have hunknown : (scan clean).unknown = [] := by rw [hscan]
  have houtcome : lineOutcome t.env clean = lineOutcome s.env line := by
    rw [henv]
    exact lineOutcome_congr hitems t.env
  refine ⟨hitems, hunknown, ?_, ?_, pairwise_unknown line, tryLine_diagnostics line s, ?_, ?_, ?_,
    fun h => tryLine_errorBytes h line⟩
  · rw [tryLine_value, tryLine_value, houtcome]
  · rw [tryLine_env, tryLine_env, houtcome]
  · rw [tryLine_diagnostics, hunknown, List.map_nil]
  · rw [valueOrZero_diagnostics, ← tryLine_value]
    rfl
  · rw [valueOrZero_diagnostics, houtcome, ← tryLine_value, LineResult.reports, hunknown]
    rfl

/-- `y@ + .z * ∑(x`: of three unknown characters the last has three bytes, and the parenthesis after
it is never closed. -/
theorem tryLine_withoutUnknown_three :
    let s : Session := { env := (∅ : Environment).set "x" 3 }
    let t : Session := { env := (∅ : Environment).set "x" 3, error := .limited 0 }
    let e : LineError := .parse (.unclosed ⟨13, 13⟩ "end of input" ⟨15, 15⟩)
    withoutUnknown "y@ + .z * ∑(x" = "y  +  z *    (x" ∧
      s.env = t.env ∧ (tryLine "y@ + .z * ∑(x" s).value = .error e ∧
      (tryLine "y  +  z *    (x" t).value = .error e ∧
      (tryLine "y@ + .z * ∑(x" s).diagnostics =
        [.unknownCharacter ⟨'@', 1⟩, .unknownCharacter ⟨'.', 5⟩, .unknownCharacter ⟨'∑', 10⟩] ∧
      (tryLine "y  +  z *    (x" t).diagnostics = [] := by
  intro s t e
  have hclean : withoutUnknown "y@ + .z * ∑(x" = "y  +  z *    (x" := by decide +kernel
  have hunknown : (scan "y@ + .z * ∑(x").unknown = [⟨'@', 1⟩, ⟨'.', 5⟩, ⟨'∑', 10⟩] := by
    decide +kernel
  have herror : (tryLine "y@ + .z * ∑(x" s).value = .error e := by
    rw [tryLine_value]
    cbv
  obtain ⟨-, -, hvalue, -, -, hreports, hnone, -⟩ :=
    tryLine_withoutUnknown (s := s) (t := t) rfl "y@ + .z * ∑(x"
  rw [hclean] at hvalue hnone
  rw [hunknown] at hreports
  exact ⟨hclean, rfl, herror, hvalue.trans herror, hreports, hnone⟩

/-- White space between tokens never matters. At a place that is not inside an item it leaves the
tokens, their texts and the unknown characters as they are, and moves the spans behind the place by
its bytes. The value of the line and the variables after it stay the same, or its error is the same
about the moved spans. -/
theorem tryLine_insert {s t : Session} (henv : s.env = t.env) {a b w : String}
    (hcut : ∀ i ∈ (scan (a ++ b)).items,
      ¬ (i.span.start < a.utf8ByteSize ∧ a.utf8ByteSize ≤ i.span.stop))
    (hw : ∀ c ∈ w.toList, Text.isWhiteSpace c = true) :
    let move := Span.moved a.utf8ByteSize w.utf8ByteSize
    scan (a ++ w ++ b) = (scan (a ++ b)).respan move ∧
    (tryLine (a ++ w ++ b) t).value =
      (tryLine (a ++ b) s).value.mapError (LineError.respan move) ∧
    (tryLine (a ++ w ++ b) t).session.env = (tryLine (a ++ b) s).session.env := by
  intro move
  have hscan : scan (a ++ w ++ b) = (scan (a ++ b)).respan move := scan_insert hcut hw
  have houtcome := lineOutcome_respan (congrArg Scan.items hscan) t.env
  refine ⟨hscan, ?_, ?_⟩
  · rw [tryLine_value, tryLine_value, houtcome, henv]
  · rw [tryLine_env, tryLine_env, houtcome, henv]

/-- `x = (y *é` and `.z y` with a tab and a wide space between them: the parenthesis keeps its
place, and the item found in place of its closing one is moved by four bytes. -/
theorem tryLine_insert_four :
    let s : Session := { error := .limited 0 }
    let t : Session := {}
    s.env = t.env ∧
      (∀ i ∈ (scan ("x = (y *é" ++ ".z y")).items,
        ¬ (i.span.start < "x = (y *é".utf8ByteSize ∧ "x = (y *é".utf8ByteSize ≤ i.span.stop)) ∧
      (∀ c ∈ "\t\u2003".toList, Text.isWhiteSpace c = true) ∧
      (tryLine ("x = (y *é" ++ ".z y") s).value =
        .error (.parse (.unclosed ⟨4, 4⟩ "y" ⟨13, 13⟩)) ∧
      (tryLine ("x = (y *é" ++ "\t\u2003" ++ ".z y") t).value =
        .error (.parse (.unclosed ⟨4, 4⟩ "y" ⟨17, 17⟩)) := by
  intro s t
  have hcut : ∀ i ∈ (scan ("x = (y *é" ++ ".z y")).items,
      ¬ (i.span.start < "x = (y *é".utf8ByteSize ∧ "x = (y *é".utf8ByteSize ≤ i.span.stop) := by
    decide +kernel
  have hw : ∀ c ∈ "\t\u2003".toList, Text.isWhiteSpace c = true :=
    List.all_eq_true.mp (by decide +kernel)
  have herror : (tryLine ("x = (y *é" ++ ".z y") s).value =
      .error (.parse (.unclosed ⟨4, 4⟩ "y" ⟨13, 13⟩)) := by
    rw [tryLine_value]
    cbv
  obtain ⟨-, hvalue, -⟩ := tryLine_insert (s := s) (t := t) rfl hcut hw
  rw [herror] at hvalue
  refine ⟨rfl, hcut, hw, herror, hvalue.trans ?_⟩
  decide +kernel

end Session

end LineCalculator
