import LineCalculator.LineError
import LineCalculator.Proofs.Grammar.Refusal

/-!
# Spans play no part in parsing

Items with other spans are read in the same way. What they come to is the same expression, or the
same error about the items at their spans.
-/
namespace LineCalculator

def Item.respan (f : Span → Span) (i : Item) : Item := { i with span := f i.span }

def ParseError.respan (f : Span → Span) : ParseError → ParseError
  | malformedNumber lexeme s => malformedNumber lexeme (f s)
  | numberOutOfRange lexeme s => numberOutOfRange lexeme (f s)
  | unexpected found s => unexpected found (f s)
  | unclosed opening found s => unclosed (f opening) found (f s)
  | outOfItems => outOfItems

/-- An evaluation knows nothing of spans. -/
def LineError.respan (f : Span → Span) : LineError → LineError
  | parse e => parse (e.respan f)
  | evaluation e => evaluation e

namespace Item
variable (f : Span → Span) (i : Item)

@[simp] lemma respan_token : (i.respan f).token = i.token := rfl
@[simp] lemma respan_lexeme : (i.respan f).lexeme = i.lexeme := rfl
@[simp] lemma respan_span : (i.respan f).span = f i.span := rfl
@[simp] lemma respan_label : (i.respan f).label = i.label := rfl

lemma number_respan : (i.respan f).number = i.number.mapError (ParseError.respan f) := by
  unfold number
  rw [respan_lexeme]
  cases Numeral.read? i.lexeme with
  | none => rfl
  | some n =>
    dsimp only
    split
    · rfl
    · rfl

end Item

namespace Grammar

def Refusal.respan (f : Span → Span) (r : Refusal) : Refusal :=
  ⟨r.error.respan f, r.unread.map (Item.respan f)⟩

variable {k : Phrase} {items rest : List Item} {e : Expr} {r : Refusal}

lemma mem_head?_respan (f : Span → Span) (P : Token → Prop)
    (h : ∀ next ∈ items.head?, P next.token) :
    ∀ next ∈ (items.map (Item.respan f)).head?, P next.token := by
  intro next hn
  rw [List.head?_map] at hn
  obtain ⟨i, hi, rfl⟩ := Option.map_eq_some_iff.mp hn
  exact h i hi

theorem Reads.respan (h : Reads k items e rest) (f : Span → Span) :
    Reads k (items.map (Item.respan f)) e (rest.map (Item.respan f)) := by
  induction h with
  | @number i rest v token value =>
    exact .number token (by rw [Item.number_respan, value]; rfl)
  | @var i rest token alone =>
    exact .var (i := i.respan f) token (mem_head?_respan f (· ≠ .equal) alone)
  | @assign i equals items rest e token mark _ ih =>
    exact .assign (i := i.respan f) token mark ih
  | group left _ right ih => exact .group left ih right
  | chain _ _ ihf iht => exact .chain ihf iht
  | @stop l items left quiet =>
    exact .stop (mem_head?_respan f (fun t => l.joins t = false) quiet)
  | join joins _ _ ihl iht => exact .join joins ihl iht

lemma Halts.respan (h : Halts items r) (f : Span → Span) :
    Halts (items.map (Item.respan f)) (r.respan f) := by
  cases h with
  | nothing => exact .nothing
  | @number i rest e token value =>
    exact .number token (by rw [Item.number_respan, value]; rfl)
  | @unexpected i rest token => exact .unexpected (i := i.respan f) token
  | unfinished left inner => exact .unfinished left (inner.respan f)
  | @unclosed opening found items rest e left inner right =>
    have hleft : (opening.respan f).token = .leftParen := left
    exact .unclosed hleft (inner.respan f) right

theorem Refuses.respan (h : Refuses k items r) (f : Span → Span) :
    Refuses k (items.map (Item.respan f)) (r.respan f) := by
  induction h with
  | halt halts => exact .halt (halts.respan f)
  | value token mark _ ih => exact .value token mark ih
  | inner left _ ih => exact .inner left ih
  | first _ ih => exact .first ih
  | tail first _ ih => exact .tail (first.respan f) ih
  | link joins _ ih => exact .link joins ih
  | more joins link _ ih => exact .more joins (link.respan f) ih

end Grammar

theorem parse_respan (f : Span → Span) (items : List Item) :
    (parse (items.map (Item.respan f))).map Parsed.expr =
      ((parse items).map Parsed.expr).mapError (ParseError.respan f) := by
  cases h : parse items with
  | ok p =>
    have hreads := (Grammar.parse_eq_ok_iff_reads.mp h).respan f
    have hparse : parse (items.map (Item.respan f)) = .ok ⟨p.expr, p.rest.map (Item.respan f)⟩ :=
      Grammar.parse_eq_ok_iff_reads.mpr hreads
    rw [hparse]
    rfl
  | error e =>
    obtain ⟨unread, hrefuses⟩ := Grammar.parse_eq_error_iff_refuses.mp h
    have hparse := Grammar.parse_eq_error_iff_refuses.mpr ⟨_, hrefuses.respan f⟩
    rw [hparse]
    rfl

end LineCalculator
