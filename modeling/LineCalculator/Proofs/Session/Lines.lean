import LineCalculator.Proofs.Evaluation.Assignments
import LineCalculator.Proofs.Evaluation.StackMachine
import LineCalculator.Proofs.Grammar.Parse
import LineCalculator.Proofs.Scan.Placement

/-!
# The assignments of lines

A line assigns what the code of the expression at its front stores, and nothing if it has no such
front. What stands after the expression plays no part. The names in an expression are those of
its line.
-/
namespace LineCalculator

namespace Grammar

lemma Derivation.exists_of_mem_names {k : Phrase} (d : Derivation k) {x : String}
    (h : x ∈ d.tree.names) : ∃ i ∈ d.items, i.token = .identifier ∧ i.lexeme = x := by
  induction d with
  | number i v token value => simp [tree, Expr.names] at h
  | name i token =>
    obtain rfl : x = i.lexeme := by simpa [tree, Expr.names] using h
    exact ⟨i, by simp [items], token, rfl⟩
  | assign i equals value token mark ih =>
    rcases List.mem_append.mp h with h | h
    · obtain ⟨j, hj, hname⟩ := ih h
      exact ⟨j, by simp [items, hj], hname⟩
    · obtain rfl := List.mem_singleton.mp h
      exact ⟨i, by simp [items], token, rfl⟩
  | group opening closing inner left right ih =>
    obtain ⟨j, hj, hname⟩ := ih h
    exact ⟨j, by simp [items, hj], hname⟩
  | single link ih => exact ih h
  | joined left op right joins ihl ihr =>
    rcases List.mem_append.mp h with h | h
    · obtain ⟨j, hj, hname⟩ := ihl h
      exact ⟨j, by simp [items, hj], hname⟩
    · obtain ⟨j, hj, hname⟩ := ihr h
      exact ⟨j, by simp [items, hj], hname⟩

lemma exists_front_of_parse {items : List Item} {p : Parsed} (h : parse items = .ok p) :
    ∃ front, items = front ++ p.rest ∧ parse front = .ok ⟨p.expr, []⟩ := by
  obtain ⟨d, hd, htree, hitems, -⟩ := parse_eq_ok_iff_derived.mp h
  have hstop : d.StopsBefore [] := by simp [Derivation.StopsBefore]
  exact ⟨d.items, hitems, parse_eq_ok_iff_derived.mpr ⟨d, hd, htree, by simp, hstop⟩⟩

end Grammar

lemma isNameText_of_mem_items {line : String} {i : Item} (h : i ∈ (scan line).items)
    (ht : i.token = .identifier) : IsNameText i.lexeme.toList := by
  have hform := wellFormed_of_mem_items h (by simp [ht])
  rw [ht] at hform
  exact hform

lemma isNameText_of_mem_names {line : String} {p : Parsed} (h : parse (scan line).items = .ok p)
    {x : String} (hx : x ∈ p.expr.names) : IsNameText x.toList := by
  obtain ⟨d, -, htree, hitems, -⟩ := Grammar.parse_eq_ok_iff_derived.mp h
  rw [← htree] at hx
  obtain ⟨i, hi, ht, rfl⟩ := d.exists_of_mem_names hx
  have hline : i ∈ (scan line).items := by
    rw [hitems]
    exact List.mem_append_left _ hi
  exact isNameText_of_mem_items hline ht

/-- The assignments that a line completes. -/
inductive LineCompletes (env : Environment) (line : String) : List Assignment → Prop
  | unparsed {err : ParseError} (failed : parse (scan line).items = .error err) :
      LineCompletes env line []
  /-- The stores of the code of the expression at the front of the line, up to its end or to the
  instruction that stops it. -/
  | parsed {front ignored : List Item} {e : Expr} (items : (scan line).items = front ++ ignored)
      (whole : parse (scan line).items = .ok ⟨e, ignored⟩) (alone : parse front = .ok ⟨e, []⟩) :
      LineCompletes env line (StackMachine.run e.code (StackMachine.start env)).assigned

lemma LineCompletes.isNameText {env : Environment} {line : String} {assigned : List Assignment}
    (h : LineCompletes env line assigned) : ∀ a ∈ assigned, IsNameText a.name.toList := by
  cases h with
  | unparsed => simp
  | parsed items whole alone =>
    intro a ha
    rw [StackMachine.assigned_run_code] at ha
    exact isNameText_of_mem_names whole
      (Expr.targets_subset_names _ ((Expr.evaluate_replays _ env).names a ha))

/-- The assignments that lines complete, each line in the environment that those before it leave. -/
inductive Completes : Environment → List String → List Assignment → Prop
  | nil {env : Environment} : Completes env [] []
  | cons {env : Environment} {line : String} {lines : List String} {first next : List Assignment}
      (head : LineCompletes env line first) (tail : Completes (env.replay first) lines next) :
      Completes env (line :: lines) (first ++ next)

namespace Completes
variable {env : Environment} {lines : List String} {assigned : List Assignment}

lemma single {line : String} (h : LineCompletes env line assigned) :
    Completes env [line] assigned := by
  simpa using cons h nil

lemma append {more : List String} {next : List Assignment} (h : Completes env lines assigned)
    (h' : Completes (env.replay assigned) more next) :
    Completes env (lines ++ more) (assigned ++ next) := by
  induction h with
  | nil => exact h'
  | cons head tail ih =>
    rw [List.append_assoc]
    refine .cons head (ih ?_)
    rwa [← Environment.replay_append]

lemma isNameText (h : Completes env lines assigned) :
    ∀ a ∈ assigned, IsNameText a.name.toList := by
  induction h with
  | nil => simp
  | cons head tail ih => exact List.forall_mem_append.mpr ⟨head.isNameText, ih⟩

end Completes

end LineCalculator
