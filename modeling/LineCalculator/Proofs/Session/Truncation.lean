import LineCalculator.Proofs.Session.Composition
import LineCalculator.Proofs.Session.FileRun
import Mathlib

/-!
# A print channel that runs full

A run on a print channel with room for so many bytes is the run on a working channel as long as the
results fit. The first result that does not fit is printed as far as there is room, and ends the
run: the line is evaluated, with all that it does, and nothing behind it is looked at.
-/
namespace LineCalculator

namespace Channel

/-- A channel that takes `room` more bytes and none after them. -/
def HasRoom (c : Channel) (room : Nat) : Prop := ∀ i, c.accepts (c.offered + i) = decide (i < room)

lemma hasRoom_limited (room : Nat) : (limited room).HasRoom room := by
  intro i
  simp [limited]

lemma works_unlimited : unlimited.Works := fun _ _ => rfl

variable {c : Channel} {room : Nat} {line : String}

lemma HasRoom.takes (h : c.HasRoom room) (n : Nat) : c.takes n = min room n := by
  have hroom : ∀ k n, (List.range n).takeWhile (fun i => decide (i < k)) =
      List.range (min k n) := by
    intro k n
    induction n with
    | zero => simp
    | succ n ih =>
      rw [List.range_succ, List.takeWhile_append, ih, List.length_range, List.length_range]
      rcases Nat.lt_or_ge n k with hlt | hge
      · rw [Nat.min_eq_right hlt.le, Nat.min_eq_right hlt, if_pos rfl, List.range_succ]
        simp [hlt]
      · rw [Nat.min_eq_left hge, Nat.min_eq_left (Nat.le_succ_of_le hge)]
        split
        · rename_i heq
          simp [heq]
        · rfl
  rw [Channel.takes]
  simp only [h _, hroom, List.length_range]

lemma HasRoom.send_of_le (h : c.HasRoom room) (hfits : (lineBytes line).length ≤ room) :
    (c.send line).1 = ⟨line, (lineBytes line).length⟩ ∧
      (c.send line).2.HasRoom (room - (lineBytes line).length) := by
  have htakes := h.takes (lineBytes line).length
  rw [Nat.min_eq_right hfits] at htakes
  refine ⟨by rw [send, htakes], fun i => ?_⟩
  rw [send, htakes, Nat.min_eq_right (Nat.le_succ _), Nat.add_assoc, h]
  exact decide_eq_decide.mpr (by omega)

lemma HasRoom.send_of_lt (h : c.HasRoom room) (hroom : room < (lineBytes line).length) :
    (c.send line).1 = ⟨line, room⟩ := by
  rw [send, h.takes, Nat.min_eq_left hroom.le]

lemma HasRoom.not_complete (h : c.HasRoom room) (hroom : room < (lineBytes line).length) :
    (c.send line).1.complete = false := by
  rw [h.send_of_lt hroom, Delivery.complete]
  simpa using hroom.ne

end Channel

namespace Step
variable {α β : Type}

/-- A step with another print channel in the session that it leaves. -/
def withPrint (t : Step α) (c : Channel) : Step α :=
  ⟨t.value, { t.session with print := c }, t.events⟩

@[simp] lemma withPrint_printBytes (t : Step α) (c : Channel) :
    (t.withPrint c).printBytes = t.printBytes := rfl

lemma printBytes_eq {γ : Type} {t : Step α} {early : Step β} {last : Step γ} {line : String}
    {taken : Nat} {later : List Event}
    (h : t.events = early.events ++ last.events ++ .printed line taken :: later)
    (hlast : last.printBytes = []) :
    t.printBytes =
      early.printBytes ++ ((lineBytes line).take taken ++ later.flatMap Event.printBytes) := by
  rw [printBytes] at hlast
  rw [printBytes, h, List.flatMap_append, List.flatMap_append, hlast, List.append_nil]
  rfl

end Step

/-- An operation that leaves the print channel alone. -/
structure Action.SparesPrint {α : Type} (x : Action α) : Prop where
  run : ∀ (s : Session) (c : Channel), x { s with print := c } = (x s).withPrint c
  printBytes : ∀ s : Session, (x s).printBytes = []

namespace Action.SparesPrint
variable {α β : Type} {x : Action α} {f : α → Action β}

lemma print (h : x.SparesPrint) (s : Session) : (x s).session.print = s.print := by
  have hrun := h.run s s.print
  exact congrArg (fun t : Step α => t.session.print) hrun

lemma bind (hx : x.SparesPrint) (hf : ∀ a, (f a).SparesPrint) : (x >>= f).SparesPrint where
  run s c := by
    have hnext := (hf (x s).value).run (x s).session c
    rw [Action.bind_run, hx.run s c]
    simp only [Step.withPrint, hnext, Action.bind_run]
  printBytes s := by
    rw [Step.printBytes_bind, hx.printBytes, (hf _).printBytes, List.append_nil]

end Action.SparesPrint

namespace Session

lemma report_sparesPrint (d : Diagnostic) : (report d).SparesPrint where
  run _ _ := rfl
  printBytes s := by
    unfold report Step.printBytes
    dsimp only
    split <;> rfl

lemma evaluate_sparesPrint (e : Expr) : (evaluate e).SparesPrint where
  run _ _ := rfl
  printBytes s := by
    refine List.flatMap_eq_nil_iff.mpr fun event hmem => ?_
    obtain ⟨a, -, ha⟩ := List.mem_flatMap.mp hmem
    rcases List.mem_cons.mp ha with rfl | ha
    · rfl
    · cases hr : a.replaced with
      | none => simp [hr] at ha
      | some old =>
        obtain rfl : event = _ := by simpa [hr] using ha
        rfl

lemma compositional_sparesPrint : Compositional fun _ x => x.SparesPrint where
  pure _ := ⟨fun _ _ => rfl, fun _ => rfl⟩
  bind := Action.SparesPrint.bind
  emit h := by
    refine ⟨fun _ _ => rfl, fun _ => List.flatMap_eq_nil_iff.mpr fun e he => ?_⟩
    obtain ⟨r, rfl⟩ := h e he
    rfl
  report := report_sparesPrint
  evaluate := evaluate_sparesPrint

lemma tryLine_sparesPrint (line : String) : (tryLine line).SparesPrint :=
  compositional_sparesPrint.tryLine line

/-- Go on from line `n`, unless the run has ended, and count all lines together. -/
def goOn (n : Nat) (rest : List (Except Fault String)) :
    Except Fault Summary → Action (Except Fault Summary)
  | .error fault => Pure.pure (.error fault)
  | .ok summary => Except.map (summary + ·) <$> runLines n rest

lemma runLines_cons (n : Nat) (line : String) (rest : List (Except Fault String)) :
    runLines n (.ok line :: rest) = runLines n [.ok line] >>= goOn (n + 1) rest := by
  rw [runLines, runLines]
  split
  · rfl
  · rw [bind_assoc]
    refine congrArg (tryLine line >>= ·) (funext fun result => ?_)
    cases result with
    | error e =>
      simp only [bind_assoc]
      rfl
    | ok v =>
      simp only [bind_assoc]
      refine congrArg (printText _ >>= ·) (funext fun printed => ?_)
      cases printed with
      | error fault => rfl
      | ok _ => rfl

section OneLine
variable {s : Session} {n : Nat} {line : String}

lemma runLine_quiet (h : isSkipped line = true ∨ ∃ e, (tryLine line s).value = .error e) :
    (∃ summary, (runLines n [.ok line] s).value = .ok summary) ∧
    (runLines n [.ok line] s).printBytes = [] ∧
    (runLines n [.ok line] s).session.print = s.print ∧
    ∀ c, runLines n [.ok line] { s with print := c } = (runLines n [.ok line] s).withPrint c := by
  rw [runLines]
  cases hskip : isSkipped line with
  | true => exact ⟨⟨_, rfl⟩, rfl, rfl, fun _ => rfl⟩
  | false =>
    obtain ⟨e, he⟩ := h.resolve_left (by simp [hskip])
    have hline := tryLine_sparesPrint line
    have hreport := report_sparesPrint (.failedAt n e)
    rw [if_neg Bool.false_ne_true]
    refine ⟨⟨{ failed := 1 }, ?_⟩, ?_, ?_, fun c => ?_⟩
    · rw [Action.bind_run, he]
      rfl
    · rw [Step.printBytes_bind, he, hline.printBytes, Step.printBytes_bind, Step.printBytes_bind,
        hreport.printBytes]
      rfl
    · simp only [Action.bind_run, he, log, emit, report, Action.map_run, runLines, Action.pure_run]
      exact hline.print s
    · rw [Action.bind_run, Action.bind_run, hline.run]
      simp only [Step.withPrint, he]
      rfl

lemma runLine_result (hskip : isSkipped line = false) {v : Float}
    (hv : (tryLine line s).value = .ok v) (c : Channel) :
    runLines n [.ok line] { s with print := c } =
      ⟨if (c.send (resultLine n v)).1.complete then .ok { evaluated := 1 } else .error .channelFull,
        { (tryLine line s).session with print := (c.send (resultLine n v)).2 },
        (tryLine line s).events ++
          [.printed (resultLine n v) (c.send (resultLine n v)).1.taken]⟩ := by
  rw [runLines, if_neg (by simp [hskip]), Action.bind_run, (tryLine_sparesPrint line).run]
  simp only [Step.withPrint, hv]
  rw [Action.bind_run]
  simp only [printText]
  split <;> rfl

lemma runLine_taken (hskip : isSkipped line = false) {v : Float}
    (hv : (tryLine line s).value = .ok v) {c : Channel}
    (hc : (c.send (resultLine n v)).1 = ⟨resultLine n v, (lineBytes (resultLine n v)).length⟩) :
    runLines n [.ok line] { s with print := c } =
      ⟨.ok { evaluated := 1 },
        { (tryLine line s).session with print := (c.send (resultLine n v)).2 },
        (tryLine line s).events ++
          [.printed (resultLine n v) (lineBytes (resultLine n v)).length]⟩ := by
  rw [runLine_result hskip hv, hc]
  simp [Delivery.complete]

lemma runLine_cases (hs : s.print.Works) (n : Nat) (line : String) :
    (isSkipped line = true ∨ ∃ e, (tryLine line s).value = .error e) ∨
      ∃ v, isSkipped line = false ∧ (tryLine line s).value = .ok v ∧
        (runLines n [.ok line] s).printBytes = lineBytes (resultLine n v) := by
  cases hskip : isSkipped line with
  | true => exact .inl (.inl rfl)
  | false =>
    cases hv : (tryLine line s).value with
    | error e => exact .inl (.inr ⟨e, rfl⟩)
    | ok v =>
      refine .inr ⟨v, rfl, rfl, ?_⟩
      have hrun : runLines n [.ok line] s = _ := runLine_taken hskip hv (hs.send_fst _)
      have hevents : (runLines n [.ok line] s).events = (runLines n [] s).events ++
          (tryLine line s).events ++
            [.printed (resultLine n v) (lineBytes (resultLine n v)).length] := by
        rw [hrun]
        rfl
      rw [Step.printBytes_eq hevents ((tryLine_sparesPrint line).printBytes s), List.take_length,
        List.flatMap_nil, List.append_nil]
      rfl

lemma runLine_works (hs : s.print.Works) (n : Nat) (line : String) :
    (∃ summary, (runLines n [.ok line] s).value = .ok summary) ∧
      (runLines n [.ok line] s).session.print.Works := by
  rcases runLine_cases hs n line with hquiet | ⟨v, hskip, hv, -⟩
  · obtain ⟨hvalue, -, hprint, -⟩ := runLine_quiet (n := n) hquiet
    rw [hprint]
    exact ⟨hvalue, hs⟩
  · have hrun : runLines n [.ok line] s = _ := runLine_taken (n := n) hskip hv (hs.send_fst _)
    rw [hrun]
    exact ⟨⟨_, rfl⟩, hs.send_snd _⟩

lemma runLine_fits (hs : s.print.Works) {c : Channel} {room : Nat} (hc : c.HasRoom room)
    (hfits : (runLines n [.ok line] s).printBytes.length ≤ room) :
    ∃ c', c'.HasRoom (room - (runLines n [.ok line] s).printBytes.length) ∧
      runLines n [.ok line] { s with print := c } = (runLines n [.ok line] s).withPrint c' := by
  rcases runLine_cases hs n line with hquiet | ⟨v, hskip, hv, hbytes⟩
  · obtain ⟨-, hbytes, -, hrun⟩ := runLine_quiet (n := n) hquiet
    rw [hbytes]
    exact ⟨c, hc, hrun c⟩
  · rw [hbytes] at hfits ⊢
    obtain ⟨htaken, hroom⟩ := hc.send_of_le hfits
    have hwhole : runLines n [.ok line] s = _ := runLine_taken (n := n) hskip hv (hs.send_fst _)
    refine ⟨_, hroom, ?_⟩
    rw [runLine_taken hskip hv htaken, hwhole]
    rfl

end OneLine

section Run
variable {s : Session} {n room : Nat} {line : String} {lines : List (Except Fault String)}

lemma runLines_cons_run (hs : s.print.Works) (n : Nat) (line : String)
    (rest : List (Except Fault String)) :
    (runLines n (.ok line :: rest) s).session =
      (runLines (n + 1) rest (runLines n [.ok line] s).session).session ∧
    (runLines n (.ok line :: rest) s).events = (runLines n [.ok line] s).events ++
      (runLines (n + 1) rest (runLines n [.ok line] s).session).events := by
  obtain ⟨summary, hvalue⟩ := (runLine_works hs n line).1
  rw [runLines_cons, Action.bind_run, hvalue]
  exact ⟨rfl, rfl⟩

lemma printBytes_runLines_cons (hs : s.print.Works) (n : Nat) (line : String)
    (rest : List (Except Fault String)) :
    (runLines n (.ok line :: rest) s).printBytes = (runLines n [.ok line] s).printBytes ++
      (runLines (n + 1) rest (runLines n [.ok line] s).session).printBytes := by
  rw [Step.printBytes, (runLines_cons_run hs n line rest).2, List.flatMap_append]
  rfl

theorem runLines_fits (hs : s.print.Works) {c : Channel} (hc : c.HasRoom room)
    (lines : List (Except Fault String)) (hfits : (runLines n lines s).printBytes.length ≤ room) :
    ∃ c', runLines n lines { s with print := c } = (runLines n lines s).withPrint c' := by
  induction lines generalizing n s c room with
  | nil => exact ⟨c, rfl⟩
  | cons head rest ih =>
    cases head with
    | error fault => exact ⟨c, rfl⟩
    | ok line =>
      rw [printBytes_runLines_cons hs n line rest, List.length_append] at hfits
      obtain ⟨c', hc', hline⟩ := runLine_fits hs hc (Nat.le_of_add_right_le hfits)
      obtain ⟨⟨summary, hvalue⟩, hworks⟩ := runLine_works hs n line
      obtain ⟨c'', hrest⟩ := ih hworks hc' (Nat.le_sub_of_add_le' hfits)
      refine ⟨c'', ?_⟩
      rw [runLines_cons, Action.bind_run, Action.bind_run, hline]
      simp only [Step.withPrint, hvalue, goOn, Action.map_run, hrest]

/-- In a run from line `n` on, the results outgrow the room at one line: the lines before it have
room for theirs, and `v` is the result for which there is none. -/
inductive BreaksOff : (n room : Nat) → Session → List (Except Fault String) → List String →
    String → Float → List (Except Fault String) → Prop
  | here {n room : Nat} {s : Session} {line : String} {v : Float}
      {after : List (Except Fault String)} (unskipped : isSkipped line = false)
      (value : (tryLine line s).value = .ok v)
      (refused : room < (lineBytes (resultLine n v)).length) :
      BreaksOff n room s (.ok line :: after) [] line v after
  | later {n room : Nat} {s : Session} {head : String} {rest after : List (Except Fault String)}
      {before : List String} {line : String} {v : Float}
      (fits : (runLines n [.ok head] s).printBytes.length ≤ room)
      (tail : BreaksOff (n + 1) (room - (runLines n [.ok head] s).printBytes.length)
        (runLines n [.ok head] s).session rest before line v after) :
      BreaksOff n room s (.ok head :: rest) (head :: before) line v after

theorem exists_breaksOff (hs : s.print.Works) (lines : List (Except Fault String))
    (hroom : room < (runLines n lines s).printBytes.length) :
    ∃ before line v after, BreaksOff n room s lines before line v after := by
  induction lines generalizing n s room with
  | nil => exact absurd hroom (Nat.not_lt_zero _)
  | cons head rest ih =>
    cases head with
    | error fault =>
      have hnone : (runLines n (.error fault :: rest) s).printBytes = [] := by
        rw [runLines, Step.printBytes_bind, (report_sparesPrint _).printBytes]
        rfl
      rw [hnone] at hroom
      exact absurd hroom (Nat.not_lt_zero _)
    | ok line =>
      rw [printBytes_runLines_cons hs n line rest, List.length_append] at hroom
      by_cases hfits : (runLines n [.ok line] s).printBytes.length ≤ room
      · obtain ⟨before, last, v, after, hbreaks⟩ :=
          ih (runLine_works hs n line).2 (Nat.sub_lt_left_of_lt_add hfits hroom)
        exact ⟨line :: before, last, v, after, .later hfits hbreaks⟩
      · rcases runLine_cases hs n line with hquiet | ⟨v, hskip, hv, hbytes⟩
        · rw [(runLine_quiet hquiet).2.1] at hfits
          exact absurd (Nat.zero_le room) hfits
        · rw [hbytes] at hfits
          exact ⟨[], line, v, rest, .here hskip hv (Nat.lt_of_not_le hfits)⟩

namespace BreaksOff
variable {before : List String} {v : Float} {after : List (Except Fault String)}

lemma parts (h : BreaksOff n room s lines before line v after) :
    lines = before.map .ok ++ .ok line :: after := by
  induction h with
  | here => rfl
  | later fits tail ih => rw [ih, List.map_cons, List.cons_append]

/-- The whole run up to that line: the room is enough for what is printed before the result, and
not for the result. -/
theorem whole (h : BreaksOff n room s lines before line v after) (hs : s.print.Works) :
    let early := runLines n (before.map .ok) s
    let last := tryLine line early.session
    let result := resultLine (n + before.length) v
    isSkipped line = false ∧ last.value = .ok v ∧ early.printBytes.length ≤ room ∧
    room < early.printBytes.length + (lineBytes result).length ∧
    ∃ later, (runLines n lines s).events =
      early.events ++ last.events ++ .printed result (lineBytes result).length :: later := by
  induction h with
  | @here n room s line v after unskipped value refused =>
    refine ⟨unskipped, value, Nat.zero_le _, ?_, ?_⟩
    · exact Nat.lt_of_lt_of_le refused (Nat.le_add_left _ _)
    · have hrun : runLines n [.ok line] s = _ :=
        runLine_taken (n := n) unskipped value (hs.send_fst _)
      refine ⟨(runLines (n + 1) after (runLines n [.ok line] s).session).events, ?_⟩
      rw [(runLines_cons_run hs n line after).2, hrun, List.append_assoc]
      rfl
  | @later n room s head rest after before line v fits tail ih =>
    obtain ⟨hskip, hvalue, hearly, hroom, later, hevents⟩ := ih (runLine_works hs n head).2
    have hn : n + (head :: before).length = n + 1 + before.length := by
      rw [List.length_cons]
      omega
    obtain ⟨hsession, hcons⟩ := runLines_cons_run hs n head (before.map .ok)
    have hbytes := printBytes_runLines_cons hs n head (before.map .ok)
    dsimp only
    rw [hn, List.map_cons, hsession, hcons, hbytes, List.length_append]
    refine ⟨hskip, hvalue, by omega, by omega, later, ?_⟩
    rw [(runLines_cons_run hs n head rest).2, hevents]
    simp only [List.append_assoc]

/-- The run on a channel with that room ends at the line. -/
theorem cut (h : BreaksOff n room s lines before line v after) (hs : s.print.Works) {c : Channel}
    (hc : c.HasRoom room) :
    let early := runLines n (before.map .ok) s
    let last := tryLine line early.session
    ∃ c', runLines n lines { s with print := c } =
      ⟨.error .channelFull, { last.session with print := c' }, early.events ++ last.events ++
        [.printed (resultLine (n + before.length) v) (room - early.printBytes.length)]⟩ := by
  induction h generalizing c with
  | @here n room s line v after unskipped value refused =>
    refine ⟨(c.send (resultLine n v)).2, ?_⟩
    rw [runLines_cons, Action.bind_run, runLine_result unskipped value, hc.not_complete refused,
      hc.send_of_lt refused]
    simp only [Bool.false_eq_true, if_false, goOn, Action.pure_run, List.append_nil]
    rfl
  | @later n room s head rest after before line v fits tail ih =>
    obtain ⟨c', hc', hhead⟩ := runLine_fits hs hc fits
    obtain ⟨⟨summary, hvalue⟩, hworks⟩ := runLine_works hs n head
    obtain ⟨c'', hrest⟩ := ih hworks hc'
    have hn : n + (head :: before).length = n + 1 + before.length := by
      rw [List.length_cons]
      omega
    obtain ⟨hsession, hcons⟩ := runLines_cons_run hs n head (before.map .ok)
    have hbytes := printBytes_runLines_cons hs n head (before.map .ok)
    refine ⟨c'', ?_⟩
    dsimp only
    rw [hn, List.map_cons, hsession, hcons, hbytes, List.length_append, runLines_cons,
      Action.bind_run, hhead, Nat.sub_add_eq]
    simp only [Step.withPrint, hvalue, goOn, Action.map_run, hrest, List.append_assoc]
    rfl

theorem cut_congr (h : BreaksOff n room s lines before line v after) (hs : s.print.Works)
    {c : Channel} (hc : c.HasRoom room) (other : List (Except Fault String)) :
    runLines n (before.map .ok ++ .ok line :: other) { s with print := c } =
      runLines n lines { s with print := c } := by
  induction h generalizing c with
  | @here n room s line v after unskipped value refused =>
    rw [List.map_nil, List.nil_append, runLines_cons, runLines_cons n line after, Action.bind_run,
      Action.bind_run, runLine_result unskipped value, hc.not_complete refused]
    rfl
  | @later n room s head rest after before line v fits tail ih =>
    obtain ⟨c', hc', hhead⟩ := runLine_fits hs hc fits
    obtain ⟨⟨summary, hvalue⟩, hworks⟩ := runLine_works hs n head
    have hrest := ih hworks hc'
    rw [List.map_cons, List.cons_append, runLines_cons, runLines_cons n head rest, Action.bind_run,
      Action.bind_run, hhead]
    simp only [Step.withPrint, hvalue, goOn, Action.map_run, hrest]

end BreaksOff

end Run

end Session

/-- A print channel with room for so many bytes, beside one that takes everything. If the whole
output fits, the runs are the same. If not, there is a first line whose result does not fit: it is
evaluated as in the whole run, its result is printed as far as there is room, and the run ends with
a fault. What comes behind that line makes no difference. -/
theorem runInput_limited (s : Session) (input : Input) (room : Nat) :
    let whole := Session.runInput input { s with print := .unlimited }
    let cut := Session.runInput input { s with print := .limited room }
    (whole.printBytes.length ≤ room →
      cut.value = whole.value ∧ cut.events = whole.events ∧
        cut.session.env = whole.session.env ∧ cut.session.error = whole.session.error) ∧
    (room < whole.printBytes.length →
      cut.value = .error .channelFull ∧ cut.printBytes = whole.printBytes.take room ∧
      ∃ (before : List String) (line : String) (after : List (Except Fault String)) (v : Float)
        (later : List Event),
        let early := Session.runLines 1 (before.map .ok) { s with print := .unlimited }
        let last := Session.tryLine line early.session
        let result := Session.resultLine (before.length + 1) v
        input.lines = before.map .ok ++ .ok line :: after ∧
        isSkipped line = false ∧ last.value = .ok v ∧
        whole.events = early.events ++ last.events ++
          .printed result (lineBytes result).length :: later ∧
        early.printBytes.length ≤ room ∧
        room < early.printBytes.length + (lineBytes result).length ∧
        cut.events = early.events ++ last.events ++
          [.printed result (room - early.printBytes.length)] ∧
        cut.errorBytes = early.errorBytes ++ last.errorBytes ∧
        cut.session.env = last.session.env ∧ cut.session.error = last.session.error ∧
        ∀ other, Session.runLines 1 (before.map .ok ++ .ok line :: other)
          { s with print := .limited room } = cut) := by
  intro whole cut
  have hs : ({ s with print := .unlimited } : Session).print.Works := Channel.works_unlimited
  have hc := Channel.hasRoom_limited room
  constructor
  · intro hfits
    obtain ⟨c, hrun⟩ := Session.runLines_fits (n := 1) hs hc input.lines hfits
    have hcut : cut = whole.withPrint c := hrun
    rw [hcut]
    exact ⟨rfl, rfl, rfl, rfl⟩
  · intro hroom
    obtain ⟨before, line, v, after, hbreaks⟩ :=
      Session.exists_breaksOff (n := 1) hs input.lines hroom
    obtain ⟨hskip, hvalue, hearly, hlast, later, hevents⟩ := hbreaks.whole hs
    obtain ⟨c, hrun⟩ := hbreaks.cut hs hc
    have hcut : cut = _ := hrun
    rw [Nat.add_comm 1] at hlast hevents hcut
    refine ⟨by rw [hcut], ?_, before, line, after, v, later, hbreaks.parts, hskip, hvalue, hevents,
      hearly, hlast, by rw [hcut], ?_, by rw [hcut], by rw [hcut], hbreaks.cut_congr hs hc⟩
    · have hline := (Session.tryLine_sparesPrint line).printBytes
      have hwhole : whole.printBytes = _ := Step.printBytes_eq hevents (hline _)
      have hprinted : cut.printBytes = _ := Step.printBytes_eq (congrArg Step.events hcut) (hline _)
      rw [hprinted, hwhole, List.take_length, List.flatMap_nil, List.append_nil, List.take_append,
        List.take_of_length_le hearly, List.take_append_of_le_length (by omega)]
    · rw [hcut, Step.errorBytes, List.flatMap_append, List.flatMap_append]
      exact List.append_nil _

/-- `y`, `x = y` and `z = y` on a channel with room for fourteen bytes: the second result breaks off
after four. So `x` has its value, and `z` has none. -/
theorem runInput_limited_fourteen :
    let s : Session := { env := (∅ : Environment).set "y" 3 }
    let input : Input := .content (["y", "x = y", "z = y"].flatMap lineBytes)
    let whole := Session.runInput input { s with print := .unlimited }
    let cut := Session.runInput input { s with print := .limited 14 }
    whole.printBytes = ["Line 1: 3", "Line 2: 3", "Line 3: 3"].flatMap lineBytes ∧
      14 < whole.printBytes.length ∧ cut.value = .error .channelFull ∧
      cut.printBytes = lineBytes "Line 1: 3" ++ (lineBytes "Line 2: 3").take 4 ∧
      cut.session.env.get "x" = some 3 ∧ cut.session.env.get "z" = none := by
  intro s input whole cut
  have hs : ({ s with print := .unlimited } : Session).Works := ⟨fun _ _ => rfl, fun _ _ => rfl⟩
  have hlines : input.lines = [.ok "y", .ok "x = y", .ok "z = y"] := by decide +kernel
  have hy : lineOutcome s.env "y" = (.ok 3, s.env) := by cbv
  have hx : lineOutcome s.env "x = y" = (.ok 3, s.env.set "x" 3) := by cbv
  have hz : (lineOutcome (s.env.set "x" 3) "z = y").1 = .ok 3 := by cbv
  have hresults : fileResults s.env ["y", "x = y", "z = y"] =
      [some ⟨"y", .ok 3⟩, some ⟨"x = y", .ok 3⟩, some ⟨"z = y", .ok 3⟩] := by
    rw [fileResults_cons (by decide +kernel), hy, fileResults_cons (by decide +kernel), hx,
      fileResults_cons (by decide +kernel), hz]
    rfl
  have haccounts : whole.Accounts 1 s.env [.ok "y", .ok "x = y", .ok "z = y"] := by
    rw [← hlines]
    exact Session.runLines_accounts hs 1 _
  have hwhole : whole.printBytes = ["Line 1: 3", "Line 2: 3", "Line 3: 3"].flatMap lineBytes :=
    (haccounts.of_fileResults hresults).2.1.trans (by decide +kernel)
  have hroom : 14 < whole.printBytes.length := by
    rw [hwhole]
    decide +kernel
  obtain ⟨hvalue, hprint, -⟩ := (runInput_limited s input 14).2 hroom
  -- The first result takes ten bytes, so that the run breaks off at `x = y`.
  have hfirst := Session.runLines_accounts hs 1 [.ok "y"]
  have hbefore : fileResults s.env ["y"] = [some ⟨"y", .ok 3⟩] := by
    rw [fileResults_cons (by decide +kernel), hy]
    rfl
  have hbytes := (hfirst.of_fileResults hbefore).2.1
  have henv : (Session.runLines 1 [.ok "y"] { s with print := .unlimited }).session.env =
      s.env := by
    have hunskipped : unskipped (readable [.ok "y"]) = ["y"] := by decide +kernel
    rw [hfirst.env, hunskipped, envAfter_cons, hy]
    rfl
  have hbreaks : Session.BreaksOff 1 14 { s with print := .unlimited } input.lines ["y"] "x = y" 3
      [.ok "z = y"] := by
    rw [hlines]
    refine .later ?_ (.here (by decide +kernel) ?_ ?_)
    · rw [hbytes]
      decide +kernel
    · rw [Session.tryLine_value, henv, hx]
    · rw [hbytes]
      decide +kernel
  obtain ⟨c, hcut⟩ := hbreaks.cut hs.print (Channel.hasRoom_limited 14)
  have hafter : cut.session.env = s.env.set "x" 3 := by
    have hsession := congrArg (fun t : Step (Except Fault Summary) => t.session.env) hcut
    refine hsession.trans ?_
    simp only [List.map_cons, List.map_nil]
    rw [Session.tryLine_env, henv, hx]
  rw [hafter]
  exact ⟨hwhole, hroom, hvalue, by rw [hprint, hwhole]; decide +kernel, by decide +kernel,
    by decide +kernel⟩

end LineCalculator
