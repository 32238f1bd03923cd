import CallScope.Proofs.ClosedOnce
import CallScope.Proofs.Timeless

/-!
# Setters that cannot act may be left out

A setter acts only if the span is open and its handle records. If either is
not the case it is **idle** (`Span.isIdle`): whatever it was handed, and
whatever it looks at before it asks, it leaves no trace in the span, on the
handle, in the metrics or in the log.

So a run may be thinned out. Deleting its idle setters – which ones they
are depends on what the handle answered at each turn – gives a run in which
every turn that remains finds the same span and leads to the same
(`Span.passages_busy`). A span whose handle never records is the extreme
case: all its setters are idle, and its life is opened and closed and nothing
else (`Instrumentor.life_unrecorded`).
-/

namespace CallScope

namespace Span

/-- **Whether a turn is idle**: a setter, of a span that is closed or whose
handle does not record. -/
def isIdle (span : Span) (turn : SpanTurn) : Bool :=
  match turn.op with
  | .set _ => !(span.isOpen && turn.recording)
  | _ => false

/-- An idle turn does nothing at all. -/
theorem step_of_isIdle {span : Span} {turn : SpanTurn} (h : span.isIdle turn = true) :
    span.step turn.recording turn.moment turn.op = ⟨span, none, []⟩ := by
  obtain ⟨recording, now, op⟩ := turn
  cases op with
  | set setter =>
    have hactive : ¬(span.isOpen && recording) = true := by
      intro hactive
      rw [isIdle, hactive] at h
      cases h
    rw [step_set, if_neg hactive]
    rfl
  | _ => cases h

/-- **Whether a turn of a run does anything**, as it finds the span. -/
def Passage.isBusy (p : Passage) : Bool := !p.found.isIdle p.turn

/-- **What remains of a run** when its idle turns are deleted: the busy ones,
each with the span that it finds and what it leads to. -/
def busy (span : Span) (turns : List SpanTurn) : List Passage :=
  (span.passages turns).filter Passage.isBusy

theorem busy_cons_of_isIdle {span : Span} {turn : SpanTurn} (h : span.isIdle turn = true)
    (turns : List SpanTurn) : span.busy (turn :: turns) = span.busy turns := by
  show List.filter Passage.isBusy (⟨turn, span, _⟩ :: _) = _
  rw [step_of_isIdle h, List.filter_cons_of_neg (by simp [Passage.isBusy, h])]
  rfl

theorem busy_cons_of_not_isIdle {span : Span} {turn : SpanTurn} (h : span.isIdle turn = false)
    (turns : List SpanTurn) :
    let done := span.step turn.recording turn.moment turn.op
    span.busy (turn :: turns) = ⟨turn, span, done⟩ :: done.span.busy turns :=
  List.filter_cons_of_pos (by simp [Passage.isBusy, h])

/-- **Without its idle turns a run is the same**: each turn that remains finds
the same span and leads to the same, and the run ends with the same span. -/
theorem passages_busy (span : Span) (turns : List SpanTurn) :
    span.passages ((span.busy turns).map Passage.turn) = span.busy turns
      ∧ (span.run ((span.busy turns).map Passage.turn)).span = (span.run turns).span := by
  induction turns generalizing span with
  | nil => exact ⟨rfl, rfl⟩
  | cons turn turns ih =>
    cases h : span.isIdle turn with
    | true =>
      obtain ⟨hpassages, hlast⟩ := ih span
      rw [busy_cons_of_isIdle h]
      refine ⟨hpassages, hlast.trans ?_⟩
      show _ = ((span.step turn.recording turn.moment turn.op).span.run turns).span
      rw [step_of_isIdle h]
    | false =>
      obtain ⟨hpassages, hlast⟩ := ih (span.step turn.recording turn.moment turn.op).span
      rw [busy_cons_of_not_isIdle h]
      exact ⟨congrArg (_ :: ·) hpassages, hlast⟩

/-- The turns that are deleted have sent nothing. -/
theorem signals_busy (span : Span) (turns : List SpanTurn) :
    (span.busy turns).flatMap (fun p => p.done.signals) = (span.run turns).signals := by
  induction turns generalizing span with
  | nil => rfl
  | cons turn turns ih =>
    cases h : span.isIdle turn with
    | true =>
      let done := span.step turn.recording turn.moment turn.op
      show _ = done.signals ++ (done.span.run turns).signals
      rw [busy_cons_of_isIdle h, ih, show done = _ from step_of_isIdle h]
      rfl
    | false =>
      rw [busy_cons_of_not_isIdle h, List.flatMap_cons, ih]
      rfl

/-- A run without its idle turns. -/
theorem run_busy (span : Span) (turns : List SpanTurn) :
    span.run ((span.busy turns).map Passage.turn)
      = ⟨(span.run turns).span, (span.busy turns).map fun p => p.done.summary,
          (span.run turns).signals⟩ := by
  obtain ⟨hpassages, hlast⟩ := span.passages_busy turns
  have hanswers := span.answers_run ((span.busy turns).map Passage.turn)
  have hsignals := span.signals_run ((span.busy turns).map Passage.turn)
  rw [hpassages] at hanswers hsignals
  rw [signals_busy] at hsignals
  rw [← hlast, ← hanswers, ← hsignals]

end Span

/-! ## Two runs of one span -/

/-- Turns at the moments that a clock shows. -/
def atMoments (clock : Nat → Moment) (turns : List SpanTurn) : List SpanTurn :=
  turns.mapIdx fun i turn => { turn with moment := clock i }

theorem timeless_atMoments (clock : Nat → Moment) (turns : List SpanTurn) :
    (atMoments clock turns).map SpanTurn.timeless = turns.map SpanTurn.timeless := by
  unfold atMoments
  induction turns generalizing clock with
  | nil => rfl
  | cons turn turns ih =>
    rw [List.mapIdx_cons, List.map_cons, List.map_cons, ih fun i => clock (i + 1)]
    rfl

/-- **A life without its idle setters is the same life.** -/
structure SameWithoutIdle (remaining kept : List Span.Passage) (whole thinned : SpanRun) :
    Prop where
  /-- Turn by turn, what remains finds the same span and leads to the same:
  the span, the summary, and what is sent. -/
  passages : kept.map Span.Passage.timeless = remaining.map Span.Passage.timeless
  /-- The life ends with the same span. -/
  state : thinned.span.timeless = whole.span.timeless
  /-- The operations that remain answer the same. -/
  answers : thinned.answers.map (Option.map CallSummary.timeless)
    = remaining.map fun p => p.done.summary.map CallSummary.timeless
  /-- The handle is told the same. -/
  calls : thinned.signals.filterMap Signal.call? = whole.signals.filterMap Signal.call?
  /-- The same is booked. -/
  samples : (thinned.signals.filterMap Signal.sample?).map Sample.timeless
    = (whole.signals.filterMap Signal.sample?).map Sample.timeless
  /-- The same is logged. -/
  logs : thinned.signals.filterMap Signal.log? = whole.signals.filterMap Signal.log?

/-- **A turn whose handle does not record.** -/
def unrecordedTurn (entry : Moment × SpanOp) : SpanTurn := ⟨false, entry.1, entry.2⟩

/-- A span that never records sends nothing between opening and closing, and
keeps nothing. -/
theorem Span.run_drop_of_unrecorded {span : Span} (h : span.isOpen = true)
    (ops : List (Moment × SpanOp)) (panicking : Bool) (dropped : Moment) :
    let run := span.run (ops.map unrecordedTurn)
    let last := run.span.drop panicking dropped
    let ending := Ending.ofTurns panicking dropped (ops.map unrecordedTurn)
    last.span = { span with isOpen := false }
      ∧ run.signals ++ last.signals = span.closingSignals ending.failure ending.moment := by
  induction ops with
  | nil =>
    intro run last ending
    have hlast : last = _ := conclude_of_open h _ dropped
    rw [hlast]
    exact ⟨rfl, rfl⟩
  | cons entry ops ih =>
    obtain ⟨now, op⟩ := entry
    cases hop : op.outcome? with
    | some failure =>
      -- the span is closed, and nothing that comes after it counts
      have hclosed : ({ span with isOpen := false } : Span).isOpen = false := rfl
      simp only [List.map_cons, unrecordedTurn, run, Ending.ofTurns, hop, drop]
      rw [step_of_outcome hop, conclude_of_open h]
      dsimp only
      rw [run_of_closed hclosed, conclude_of_closed hclosed, List.append_nil, List.append_nil]
      exact ⟨rfl, rfl⟩
    | none =>
      have hstep : span.step false now op = ⟨span, none, []⟩ := by
        rcases step_of_no_outcome hop span false now with ⟨setter, rfl⟩ | heq
        · have hidle : span.isIdle ⟨false, now, .set setter⟩ = true := by
            show (!(span.isOpen && false)) = true
            rw [Bool.and_false, Bool.not_false]
          exact step_of_isIdle hidle
        · exact heq
      simp only [List.map_cons, unrecordedTurn, run, Ending.ofTurns, hop]
      rw [hstep]
      exact ih

theorem Span.logs_closingSignals (span : Span) (failure : Option Failure) (now : Moment) :
    (span.closingSignals failure now).filterMap Signal.log?
      = (failure.map span.failureLog).toList := by
  have hsamples : (span.samples now).filterMap (fun sample => Signal.log? (.metric sample))
      = [] := List.filterMap_eq_nil_iff.mpr fun _ _ => rfl
  rw [filterMap_closingSignals, hsamples]
  cases failure <;> rfl

/-- **A life that is opened and closed and nothing else.** -/
structure OpenedAndClosed (opened : Span.Recorded) (ending : Ending) (life : SpanRun) :
    Prop where
  /-- The handle is started, told the identity of the call, then the status
  and the error if it is one, and ended. -/
  calls : life.signals.filterMap Signal.call? = [
      .start opened.span.operation .client,
      .setAttribute .spanKind (.text "LLM"),
      .setAttribute .model (.text opened.span.tags.model),
      .setAttribute .provider (.text opened.span.tags.provider),
      .setAttribute .spanType (.text "llm"),
      .setStatus (Span.statusOf ending.failure)]
    ++ (ending.failure.map fun f => HandleCall.recordError f.detail).toList ++ [.finish]
  /-- One request and one duration are booked, and no tokens. -/
  samples : life.signals.filterMap Signal.sample? = [
    .counter opened.span.metrics.requests 1 opened.span.tags,
    .histogram opened.span.metrics.duration (opened.span.openedAt.millisUntil ending.moment)
      opened.span.tags]
  /-- Beside what was warned of on opening, a failure is logged. -/
  logs : life.signals.filterMap Signal.log? = opened.signals.filterMap Signal.log?
    ++ (ending.failure.map opened.span.failureLog).toList
  /-- Nothing is kept. -/
  state : life.span = { opened.span with isOpen := false }

namespace Instrumentor

/-- **The life of a span that never records** is opened and closed and nothing
else. -/
theorem life_unrecorded (inst : Instrumentor) (model provider : String)
    (operation : Option String) (opened : Moment) (ops : List (Moment × SpanOp))
    (panicking : Bool) (dropped : Moment) :
    OpenedAndClosed (inst.start model provider operation opened)
      (Ending.ofTurns panicking dropped (ops.map unrecordedTurn))
      (inst.life model provider operation opened (ops.map unrecordedTurn) panicking dropped) := by
  obtain ⟨hopen, -⟩ := inst.span_start model provider operation opened
  obtain ⟨hlast, hsent⟩ := Span.run_drop_of_unrecorded hopen ops panicking dropped
  obtain ⟨warnings, hwarnings, hstart⟩ := inst.signals_start model provider operation opened
  have hcalls : warnings.filterMap Signal.call? = [] :=
    List.filterMap_eq_nil_iff.mpr fun signal hs => by
      obtain ⟨_, _, rfl⟩ := hwarnings signal hs
      rfl
  have hsamples : warnings.filterMap Signal.sample? = [] :=
    List.filterMap_eq_nil_iff.mpr fun signal hs => by
      obtain ⟨_, _, rfl⟩ := hwarnings signal hs
      rfl
  have hsignals : (inst.life model provider operation opened (ops.map unrecordedTurn) panicking
      dropped).signals = (inst.start model provider operation opened).signals ++ _ :=
    (List.append_assoc ..).trans (congrArg _ hsent)
  generalize Ending.ofTurns panicking dropped (ops.map unrecordedTurn) = ending at *
  refine ⟨?_, ?_, ?_, hlast⟩
  · rw [hsignals, hstart, List.filterMap_append, List.filterMap_append, hcalls,
      Span.calls_closingSignals]
    cases ending.failure <;> rfl
  · rw [hsignals, hstart, List.filterMap_append, List.filterMap_append, hsamples,
      Span.samples_closingSignals]
    rfl
  · rw [hsignals, List.filterMap_append, Span.logs_closingSignals]

/-- **Setters that cannot act may be left out**: a life without its idle
setters is the same life, at whatever moments. In particular, a span that
never records is opened and closed and nothing else. -/
theorem life_without_idle (inst : Instrumentor) (model provider : String)
    (operation : Option String) (opened opened' : Moment) (turns : List SpanTurn)
    (clock : Nat → Moment) (panicking : Bool) (dropped dropped' : Moment)
    (ops : List (Moment × SpanOp)) :
    let span := (inst.start model provider operation opened).span
    let thinned := atMoments clock ((span.busy turns).map Span.Passage.turn)
    SameWithoutIdle (span.busy turns)
        ((inst.start model provider operation opened').span.passages thinned)
        (inst.life model provider operation opened turns panicking dropped)
        (inst.life model provider operation opened' thinned panicking dropped')
      ∧ OpenedAndClosed (inst.start model provider operation opened)
        (Ending.ofTurns panicking dropped (ops.map unrecordedTurn))
        (inst.life model provider operation opened (ops.map unrecordedTurn) panicking
          dropped) := by
  intro span thinned
  have hthinned : thinned.map SpanTurn.timeless
      = ((span.busy turns).map Span.Passage.turn).map SpanTurn.timeless :=
    timeless_atMoments clock _
  have hstart : (inst.start model provider operation opened').span.timeless = span.timeless := rfl
  have hpassages := (Span.passages_congr hstart hthinned).1
  rw [(span.passages_busy turns).1] at hpassages
  -- the turns that remain, at their old moments, make up the same life
  have hcourse := inst.course_congr model provider operation opened' opened hthinned
  have hbusy : inst.course model provider operation opened
        ((span.busy turns).map Span.Passage.turn)
      = ⟨(span.run turns).span, (span.busy turns).map fun p => p.done.summary,
          (inst.start model provider operation opened).signals ++ (span.run turns).signals⟩ := by
    unfold course
    dsimp only
    rw [span.run_busy turns]
  rw [hbusy] at hcourse
  have hlife := SpanRun.drop_congr hcourse panicking dropped' dropped
  obtain ⟨hspan, hanswers, hsignals⟩ := SpanRun.mk.inj hlife
  obtain ⟨hcalls, hsamples, hlogs⟩ := views_congr hsignals
  have hsummaries : ((span.busy turns).map fun p => p.done.summary).map
      (Option.map CallSummary.timeless)
        = (span.busy turns).map fun p => p.done.summary.map CallSummary.timeless := List.map_map
  exact ⟨⟨hpassages, hspan, hanswers.trans hsummaries, hcalls, hsamples, hlogs⟩,
    inst.life_unrecorded ..⟩

end Instrumentor
end CallScope
