import LineCalculator.Proofs.Grammar.Refusal

/-!
# Reading with a cursor

`readAt` reads as `read` does, but by plain recursion, in which nothing says that it ends, and with
a cursor that is moved over items without a look at how many there are. The recursion goes no deeper
than three calls for each item left and the levels of the grammar below the phrase, for a call
either has fewer items left or is for a lower phrase. So it ends where `read` does, and the cursor
stays among the items.
-/
namespace LineCalculator.Grammar

/-- Read a phrase from the place `k` of the items on, with at most `n` calls inside one another: the
expression or the error, and the place of the cursor after it. There is nothing if the calls do not
suffice. -/
def readAt (items : List Item) : Nat → Phrase → Nat → Option (Except ParseError Expr × Nat)
  | 0, _, _ => none
  | n + 1, .factor, k =>
    match items[k]? with
    | none => some (.error .outOfItems, k)
    | some item =>
      match item.token with
      | .number => some (item.number.map .number, k + 1)
      | .identifier =>
        if items[k + 1]?.any (·.token = .equal) then
          (readAt items n (.chain .sum) (k + 2)).map fun (value, k) =>
            (value.map (.assign item.lexeme), k)
        else some (.ok (.var item.lexeme), k + 1)
      | .leftParen =>
        (readAt items n (.chain .sum) (k + 1)).map fun
          | (.error e, k) => (.error e, k)
          | (.ok inner, k) =>
            match items[k]? with
            | none => (.error .outOfItems, k)
            | some close =>
              if close.token = .rightParen then (.ok inner, k + 1)
              else (.error (.unclosed item.span close.label close.span), k)
      | _ => some (.error (.unexpected item.label item.span), k)
  | n + 1, .chain level, k =>
    (readAt items n (.link level) k).bind fun
      | (.error e, k) => some (.error e, k)
      | (.ok first, k) => readAt items n (.more level first) k
  | n + 1, .more level left, k =>
    match items[k]? with
    | none => some (.ok left, k)
    | some op =>
      if level.joins op.token then
        (readAt items n (.link level) (k + 1)).bind fun
          | (.error e, k) => some (.error e, k)
          | (.ok right, k) => readAt items n (.more level (.binary left op.token right)) k
      else some (.ok left, k)

namespace Phrase
variable {k k' : Phrase} {items rest : List Item}

/-- The measure by which reading ends: the items left count first, and then the level. -/
def measure (k : Phrase) (items : List Item) : Nat := 3 * items.length + k.depth

lemma depth_le_two (k : Phrase) : k.depth ≤ 2 := by
  cases k with
  | factor | more => exact Nat.zero_le 2
  | chain l => cases l <;> decide

lemma measure_lt {n : Nat} (hle : k.measure items ≤ n) (h : rest.length < items.length) :
    k'.measure rest < n := by
  have hdepth := k'.depth_le_two
  simp only [measure] at hle ⊢
  omega

lemma measure_link_lt {n : Nat} {l : Level} (hle : (chain l).measure items ≤ n) :
    (link l).measure items < n :=
  Nat.lt_of_lt_of_le (Nat.add_lt_add_left (depth_link_lt l) _) hle

end Phrase

def placeOf (items rest : List Item) : Nat := items.length - rest.length

section PlaceOf
variable {items rest : List Item}

lemma getElem?_placeOf (h : rest <:+ items) : items[placeOf items rest]? = rest.head? := by
  rw [← List.head?_drop, placeOf, ← List.suffix_iff_eq_drop.mp h]

lemma placeOf_cons {i : Item} (h : i :: rest <:+ items) :
    placeOf items rest = placeOf items (i :: rest) + 1 := by
  have hle := h.length_le
  rw [List.length_cons] at hle
  simp only [placeOf, List.length_cons]
  omega

lemma StepsOver.suffix (h : StepsOver items rest) : rest <:+ items := by
  obtain ⟨taken, rfl, -⟩ := h
  exact List.suffix_append _ _

lemma Reads.rest_lt {l : Level} {e : Expr} (h : Reads (.link l) items e rest) :
    rest.length < items.length := by
  obtain ⟨r, -, -, rfl⟩ := h.read
  exact r.rest_lt

lemma getElem?_succ_placeOf {i : Item} (h : i :: rest <:+ items) :
    items[placeOf items (i :: rest) + 1]? = rest.head? := by
  rw [← placeOf_cons h, getElem?_placeOf ((List.suffix_cons i rest).trans h)]

end PlaceOf

section Ends
variable {all : List Item}

lemma exists_succ_of_lt {m n : Nat} (h : m < n) : ∃ k, n = k + 1 ∧ m ≤ k :=
  ⟨n - 1, by omega, by omega⟩

lemma suffix_of_cons {i : Item} {rest : List Item} (h : i :: rest <:+ all) : rest <:+ all :=
  (List.suffix_cons i rest).trans h

theorem Reads.readAt {phrase : Phrase} {items rest : List Item} {e : Expr}
    (h : Reads phrase items e rest) (hs : items <:+ all) {n : Nat}
    (hn : phrase.measure items < n) :
    readAt all n phrase (placeOf all items) = some (.ok e, placeOf all rest) := by
  induction h generalizing n with
    obtain ⟨n, rfl, hle⟩ := exists_succ_of_lt hn
  | number token value =>
    rw [Grammar.readAt, getElem?_placeOf hs]
    simp [token, value, Except.map, placeOf_cons hs]
  | @var i rest token alone =>
    have hnone : rest.head?.any (·.token = .equal) = false := by
      cases hr : rest.head? <;> simp_all
    rw [Grammar.readAt, getElem?_placeOf hs]
    simp [token, getElem?_succ_placeOf hs, hnone, placeOf_cons hs]
  | @assign i equals items rest e token mark value ih =>
    have hvalue := ih (suffix_of_cons (suffix_of_cons hs))
      (Phrase.measure_lt hle (Nat.lt_add_right 1 (Nat.lt_succ_self _)))
    rw [placeOf_cons (suffix_of_cons hs), placeOf_cons hs] at hvalue
    rw [Grammar.readAt, getElem?_placeOf hs]
    simp [token, getElem?_succ_placeOf hs, mark, hvalue, Except.map]
  | @group opening closing items rest e left inner right ih =>
    have hinner := ih (suffix_of_cons hs)
      (Phrase.measure_lt hle (Nat.lt_succ_self _))
    have hclosing := inner.stepsOver.suffix.trans (suffix_of_cons hs)
    rw [placeOf_cons hs] at hinner
    rw [Grammar.readAt, getElem?_placeOf hs]
    simp [left, hinner, getElem?_placeOf hclosing, right, placeOf_cons hclosing]
  | @chain l items mid rest a e first tail ihf iht =>
    have hfirst := ihf hs (Phrase.measure_link_lt hle)
    have htail := iht (first.stepsOver.suffix.trans hs)
      (Phrase.measure_lt hle first.rest_lt)
    rw [Grammar.readAt, hfirst]
    exact htail
  | @stop l items left quiet =>
    rw [Grammar.readAt, getElem?_placeOf hs]
    cases items with
    | nil => rfl
    | cons next items => simp [quiet next rfl]
  | @join l op items mid rest left b e joins link tail ihl iht =>
    have hlink := ihl (suffix_of_cons hs)
      (Phrase.measure_lt hle (Nat.lt_succ_self _))
    have htail := iht (link.stepsOver.suffix.trans (suffix_of_cons hs))
      (Phrase.measure_lt hle (Nat.lt_succ_of_lt link.rest_lt))
    rw [placeOf_cons hs] at hlink
    rw [Grammar.readAt, getElem?_placeOf hs]
    simp [joins, hlink, htail]

theorem Halts.readAt {items : List Item} {r : Refusal} (h : Halts items r) (hs : items <:+ all)
    {n : Nat} (hn : Phrase.factor.measure items < n) :
    readAt all n .factor (placeOf all items) = some (.error r.error, placeOf all r.unread) := by
  obtain ⟨n, rfl, hle⟩ := exists_succ_of_lt hn
  have hinner : ∀ {opening : Item} {items rest : List Item} {e : Expr},
      opening :: items <:+ all → Phrase.factor.measure (opening :: items) ≤ n →
      Reads (.chain .sum) items e rest →
      Grammar.readAt all n (.chain .sum) (placeOf all (opening :: items) + 1) =
        some (.ok e, placeOf all rest) := fun hs hle inner => by
    rw [← placeOf_cons hs]
    exact inner.readAt (suffix_of_cons hs)
      (Phrase.measure_lt hle (Nat.lt_succ_self _))
  rw [Grammar.readAt, getElem?_placeOf hs]
  cases h with
  | nothing => rfl
  | number token value => simp [token, value, Except.map, placeOf_cons hs]
  | @unexpected i rest token =>
    cases hi : i.token <;> simp_all [Token.beginsFactor]
  | unfinished left inner =>
    have hend := getElem?_placeOf (List.nil_suffix (l := all))
    simp [left, hinner hs hle inner, hend]
  | unclosed left inner right =>
    have hfound := getElem?_placeOf (inner.stepsOver.suffix.trans (suffix_of_cons hs))
    simp [left, hinner hs hle inner, hfound, right]

theorem Refuses.readAt {phrase : Phrase} {items : List Item} {r : Refusal}
    (h : Refuses phrase items r) (hs : items <:+ all) {n : Nat}
    (hn : phrase.measure items < n) :
    readAt all n phrase (placeOf all items) = some (.error r.error, placeOf all r.unread) := by
  induction h generalizing n with
    obtain ⟨n, rfl, hle⟩ := exists_succ_of_lt hn
  | halt halts => exact halts.readAt hs hn
  | @value i equals items r token mark value ih =>
    have hvalue := ih (suffix_of_cons (suffix_of_cons hs))
      (Phrase.measure_lt hle (Nat.lt_add_right 1 (Nat.lt_succ_self _)))
    rw [placeOf_cons (suffix_of_cons hs), placeOf_cons hs] at hvalue
    rw [Grammar.readAt, getElem?_placeOf hs]
    simp [token, getElem?_succ_placeOf hs, mark, hvalue, Except.map]
  | inner left inner ih =>
    have hinner := ih (suffix_of_cons hs)
      (Phrase.measure_lt hle (Nat.lt_succ_self _))
    rw [placeOf_cons hs] at hinner
    rw [Grammar.readAt, getElem?_placeOf hs]
    simp [left, hinner]
  | @first l items r first ih =>
    have hfirst := ih hs (Phrase.measure_link_lt hle)
    rw [Grammar.readAt, hfirst]
    rfl
  | @tail l items mid a r first tail ih =>
    have hfirst := first.readAt hs (Phrase.measure_link_lt hle)
    have htail := ih (first.stepsOver.suffix.trans hs)
      (Phrase.measure_lt hle first.rest_lt)
    rw [Grammar.readAt, hfirst]
    exact htail
  | link joins link ih =>
    have hlink := ih (suffix_of_cons hs)
      (Phrase.measure_lt hle (Nat.lt_succ_self _))
    rw [placeOf_cons hs] at hlink
    rw [Grammar.readAt, getElem?_placeOf hs]
    simp [joins, hlink]
  | @more l op items mid left b r joins link tail ih =>
    have hlink := link.readAt (suffix_of_cons hs)
      (Phrase.measure_lt hle (Nat.lt_succ_self _))
    have htail := ih (link.stepsOver.suffix.trans (suffix_of_cons hs))
      (Phrase.measure_lt hle (Nat.lt_succ_of_lt link.rest_lt))
    rw [placeOf_cons hs] at hlink
    rw [Grammar.readAt, getElem?_placeOf hs]
    simp [joins, hlink, htail]

end Ends

/-- The tokens of the items that reading steps over. -/
def readTokens : List Token :=
  [.number, .identifier, .plus, .minus, .star, .slash, .leftParen, .rightParen, .equal]

lemma mem_readTokens {t : Token} (h : t ≠ .endOfInput) : t ∈ readTokens := by
  cases t with
  | endOfInput => exact absurd rfl h
  | _ => decide

lemma StepsOver.places {items rest : List Item} {k : Nat} (hk : k ≤ items.length)
    (h : StepsOver (items.drop k) rest) :
    k ≤ placeOf items rest ∧ placeOf items rest ≤ items.length ∧
      rest = items.drop (placeOf items rest) ∧
      ∀ j i, k ≤ j → j < placeOf items rest → items[j]? = some i → i.token ∈ readTokens := by
  have hrest := List.suffix_iff_eq_drop.mp (h.suffix.trans (List.drop_suffix k items))
  obtain ⟨taken, hitems, htaken⟩ := h
  have hlength := congrArg List.length hitems
  rw [List.length_drop, List.length_append] at hlength
  refine ⟨?_, Nat.sub_le _ _, hrest, fun j i hkj hj hi => mem_readTokens (htaken i ?_)⟩
  · rw [placeOf]
    omega
  · -- The item is the one at `j - k` among those that are not left.
    rw [placeOf] at hj
    have hplace : j - k < taken.length := by omega
    rw [← Nat.add_sub_cancel' hkj, ← List.getElem?_drop, hitems,
      List.getElem?_append_left hplace] at hi
    exact List.mem_of_getElem? hi

/-- Reading a sum, a term or a factor from any place on ends, and does so within three calls for
each item left and one for each lower level of the grammar. It comes to what `read` comes to. The
cursor is left at the same place, which is among the items or at their end and, if the reading
succeeds, behind the place where it began; and of all the items that the cursor is moved over, none
is the end of input. -/
theorem readAt_ends {items : List Item} {k : Nat} (hk : k ≤ items.length) {phrase : Phrase}
    (hphrase : phrase ∈ [Phrase.chain .sum, .chain .term, .factor]) :
    ∃ answer stop,
      (∀ n, 3 * (items.length - k) + phrase.depth < n →
        readAt items n phrase k = some (answer, stop)) ∧
      k ≤ stop ∧ stop ≤ items.length ∧ (∀ e, answer = .ok e → k < stop) ∧
      (∀ j i, k ≤ j → j < stop → items[j]? = some i → i.token ∈ readTokens) ∧
      match read phrase (items.drop k) with
      | .ok reading => answer = .ok reading.expr ∧ reading.rest = items.drop stop
      | .error refusal => answer = .error refusal.error ∧ refusal.unread = items.drop stop := by
  have hs := List.drop_suffix k items
  have hplace : placeOf items (items.drop k) = k := by
    rw [placeOf, List.length_drop]
    omega
  have hmeasure : phrase.measure (items.drop k) = 3 * (items.length - k) + phrase.depth := by
    rw [Phrase.measure, List.length_drop]
  cases hr : read phrase (items.drop k) with
  | ok reading =>
    have hreads := reads_of_read hr
    obtain ⟨hle, hend, hrest, htokens⟩ := hreads.stepsOver.places hk
    refine ⟨.ok reading.expr, _, fun n hn => ?_, hle, hend, fun _ _ => ?_, htokens, rfl, hrest⟩
    · rw [← hmeasure] at hn
      have hread := hreads.readAt hs hn
      rwa [hplace] at hread
    · have hprogress := reading.progress
      have hleast : phrase.least = 1 := by
        simp only [List.mem_cons, List.not_mem_nil, or_false] at hphrase
        rcases hphrase with rfl | rfl | rfl <;> rfl
      rw [hleast, List.length_drop] at hprogress
      rw [placeOf]
      omega
  | error refusal =>
    have hrefuses := refuses_of_read hr
    obtain ⟨hle, hend, hrest, htokens⟩ := hrefuses.stepsOver.places hk
    refine ⟨.error refusal.error, _, fun n hn => ?_, hle, hend, nofun, htokens, rfl, hrest⟩
    rw [← hmeasure] at hn
    have hread := hrefuses.readAt hs hn
    rwa [hplace] at hread

/-- `2 * (x`, read as a factor from the parenthesis on: the cursor is left at the end of input. -/
theorem readAt_ends_group :
    let items : List Item := [⟨.number, "2", ⟨0, 0⟩⟩, ⟨.star, "*", ⟨2, 2⟩⟩,
      ⟨.leftParen, "(", ⟨4, 4⟩⟩, ⟨.identifier, "x", ⟨5, 5⟩⟩, ⟨.endOfInput, "", ⟨6, 6⟩⟩]
    2 ≤ items.length ∧ Phrase.factor ∈ [Phrase.chain .sum, .chain .term, .factor] ∧
      ∃ answer stop, (∀ n, 9 < n → readAt items n .factor 2 = some (answer, stop)) ∧
        2 ≤ stop ∧ stop ≤ 5 ∧
        ∀ j i, 2 ≤ j → j < stop → items[j]? = some i → i.token ∈ readTokens := by
  intro items
  have hk : 2 ≤ items.length := by decide
  have hphrase : Phrase.factor ∈ [Phrase.chain .sum, .chain .term, .factor] := by simp
  obtain ⟨answer, stop, hread, hle, hend, -, htokens, -⟩ := readAt_ends hk hphrase
  exact ⟨hk, hphrase, answer, stop, hread, hle, hend, htokens⟩

end LineCalculator.Grammar
