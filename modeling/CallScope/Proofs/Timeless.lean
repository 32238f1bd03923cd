import CallScope.Proofs.Run

/-!
# Timing aside

What a span does depends on the time in two places only: the duration that
is booked and the times in the summary. Everything else is the same whenever
it happens.

To say so, times are erased: `timeless` puts a fixed value in their place,
in a span, a summary, or a signal. Two things are the same, timing aside, if
they are equal when erased. A step commutes with the erasure, so that spans
that agree timing aside go on doing so, whatever the moments of their steps
(`Span.step_congr`).
-/

namespace CallScope

/-- The moment that stands for any. -/
def Moment.epoch : Moment := ⟨0⟩

/-- The duration that stands for any. -/
def anyDuration : Double := .ofInt 0

/-- A span without its time. -/
def Span.timeless (span : Span) : Span := { span with openedAt := .epoch }

/-- A summary without its times. -/
def CallSummary.timeless (summary : CallSummary) : CallSummary :=
  { summary with startedAt := 0, endedAt := 0, duration := anyDuration }

/-- A sample without its duration. -/
def Sample.timeless : Sample → Sample
  | .histogram name _ tags => .histogram name anyDuration tags
  | sample => sample

/-- A signal without durations. -/
def Signal.timeless : Signal → Signal
  | .metric sample => .metric sample.timeless
  | signal => signal

/-- The handle is told nothing of times. -/
theorem calls_timeless (signals : List Signal) :
    (signals.map Signal.timeless).filterMap Signal.call? = signals.filterMap Signal.call? := by
  have hcall : Signal.call? ∘ Signal.timeless = Signal.call? := by
    funext signal
    cases signal <;> rfl
  rw [List.filterMap_map, hcall]

/-- What is logged tells of no times. -/
theorem logs_timeless (signals : List Signal) :
    (signals.map Signal.timeless).filterMap Signal.log? = signals.filterMap Signal.log? := by
  have hlog : Signal.log? ∘ Signal.timeless = Signal.log? := by
    funext signal
    cases signal <;> rfl
  rw [List.filterMap_map, hlog]

/-- Samples without durations are those of signals without durations. -/
theorem samples_timeless (signals : List Signal) :
    (signals.map Signal.timeless).filterMap Signal.sample?
      = (signals.filterMap Signal.sample?).map Sample.timeless := by
  have hsample : Signal.sample? ∘ Signal.timeless
      = fun signal => signal.sample?.map Sample.timeless := by
    funext signal
    cases signal <;> rfl
  rw [List.filterMap_map, List.map_filterMap, hsample]

/-- **Signals that are the same, timing aside**, tell the handle the same, book
the same and log the same. -/
theorem views_congr {first second : List Signal}
    (h : first.map Signal.timeless = second.map Signal.timeless) :
    first.filterMap Signal.call? = second.filterMap Signal.call?
      ∧ (first.filterMap Signal.sample?).map Sample.timeless
        = (second.filterMap Signal.sample?).map Sample.timeless
      ∧ first.filterMap Signal.log? = second.filterMap Signal.log? := by
  refine ⟨?_, ?_, ?_⟩
  · rw [← calls_timeless first, h, calls_timeless]
  · rw [← samples_timeless, h, samples_timeless]
  · rw [← logs_timeless first, h, logs_timeless]

namespace Span

/-- What a setter leads to, without times. -/
def Recorded.timeless (done : Recorded) : Recorded := ⟨done.span.timeless, done.signals⟩

/-- What an operation leads to, without times. -/
def Closed.timeless (done : Closed) : Closed :=
  ⟨done.span.timeless, done.summary.map CallSummary.timeless, done.signals.map Signal.timeless⟩

/-- **A setter does the same at any time.** -/
theorem set_timeless (span : Span) (recording : Bool) (setter : Setter) :
    span.timeless.set recording setter = (span.set recording setter).timeless := by
  obtain ⟨asides, heq⟩ := record_eq setter
  have hasides : asides.signals span.timeless = asides.signals span := asides.congr _ _ rfl rfl
  -- asides look at the limits and the operation, which are no times
  have hrecord : span.timeless.record setter = (span.record setter).timeless := by
    rw [heq, heq]
    unfold settingSignals
    rw [hasides]
    rfl
  rw [set_eq, set_eq]
  show (if span.isOpen && recording then _ else _) = (whenActive _ _ _).timeless
  unfold whenActive
  split
  · exact hrecord
  · rfl

/-- **Closing a span is the same at any time**, timing aside. -/
theorem conclude_timeless (span : Span) (failure : Option Failure) (now other : Moment) :
    (span.timeless.conclude failure other).timeless = (span.conclude failure now).timeless := by
  have hsamples : ∀ (span : Span) (now : Moment), (span.samples now).map Sample.timeless
      = .counter span.metrics.requests 1 span.tags
        :: .histogram span.metrics.duration anyDuration span.tags
        :: span.metrics.bookTokens span.tags span.usage := by
    intro span now
    show _ :: _ :: (span.metrics.bookTokens span.tags span.usage).map Sample.timeless = _
    unfold MetricNames.bookTokens
    split
    · split <;> rfl
    · rfl
  have hsignals : ∀ (span : Span) (now : Moment),
      (span.closingSignals failure now).map Signal.timeless
        = ((span.samples now).map Sample.timeless).map .metric
          ++ (span.outcomeSignals failure ++ [.handle .finish]) := by
    intro span now
    unfold closingSignals
    rw [List.map_append, List.map_append, List.map_map, List.map_map, List.append_assoc]
    cases failure <;> rfl
  cases h : span.isOpen with
  | true =>
    rw [conclude_of_open (show span.timeless.isOpen = true from h), conclude_of_open h]
    unfold Closed.timeless
    dsimp only
    rw [hsignals, hsignals, hsamples, hsamples]
    rfl
  | false =>
    rw [conclude_of_closed (show span.timeless.isOpen = false from h), conclude_of_closed h]
    rfl

/-- **A step is the same at any time**, timing aside. -/
theorem step_timeless (span : Span) (recording : Bool) (op : SpanOp) (now other : Moment) :
    (span.timeless.step recording other op).timeless
      = (span.step recording now op).timeless := by
  cases hop : op.outcome? with
  | some failure =>
    rw [step_of_outcome hop, step_of_outcome hop]
    exact span.conclude_timeless failure now other
  | none =>
    cases op with
    | set setter =>
      show Closed.timeless ⟨_, none, _⟩ = Closed.timeless ⟨_, none, _⟩
      rw [set_timeless]
      rfl
    | observe outcome =>
      cases outcome with
      | ok => rfl
      | error error => cases hop
    | _ => cases hop

/-- Spans that agree, timing aside, agree after the same step at whatever
moments. -/
theorem step_congr {first second : Span} (h : first.timeless = second.timeless)
    (recording : Bool) (op : SpanOp) (now other : Moment) :
    (first.step recording now op).timeless = (second.step recording other op).timeless := by
  rw [← first.step_timeless recording op now now, h, second.step_timeless recording op other now]

/-- Spans that agree, timing aside, agree when they are dropped. -/
theorem drop_congr {first second : Span} (h : first.timeless = second.timeless)
    (panicking : Bool) (now other : Moment) :
    (first.drop panicking now).timeless = (second.drop panicking other).timeless := by
  unfold drop
  rw [← first.conclude_timeless _ now now, h, second.conclude_timeless _ other now]

end Span

/-! ## Runs and lives -/

/-- A turn without its moment. -/
def SpanTurn.timeless (turn : SpanTurn) : SpanTurn := { turn with moment := .epoch }

/-- What turns come to, without times. -/
def SpanRun.timeless (run : SpanRun) : SpanRun :=
  ⟨run.span.timeless, run.answers.map (Option.map CallSummary.timeless),
    run.signals.map Signal.timeless⟩

namespace Span

/-- A turn in its run, without times. -/
def Passage.timeless (p : Passage) : Passage :=
  ⟨p.turn.timeless, p.found.timeless, p.done.timeless⟩

/-- **Turn by turn, a run is the same at any time**, timing aside. -/
theorem passages_congr {first second : Span} (h : first.timeless = second.timeless)
    {xs ys : List SpanTurn} (hturns : xs.map SpanTurn.timeless = ys.map SpanTurn.timeless) :
    (first.passages xs).map Passage.timeless = (second.passages ys).map Passage.timeless
      ∧ (first.run xs).span.timeless = (second.run ys).span.timeless := by
  induction xs generalizing ys first second with
  | nil =>
    cases ys with
    | cons y ys => cases hturns
    | nil => exact ⟨rfl, h⟩
  | cons x xs ih =>
    cases ys with
    | nil => cases hturns
    | cons y ys =>
      obtain ⟨hturn, hrest⟩ := List.cons.inj hturns
      obtain ⟨recording, now, op⟩ := x
      obtain ⟨recording', other, op'⟩ := y
      have hsame : recording = recording' ∧ op = op' := by
        injection hturn with hrecording _ hop
        exact ⟨hrecording, hop⟩
      obtain ⟨rfl, rfl⟩ := hsame
      have hstep := step_congr h recording op now other
      obtain ⟨hpassages, hlast⟩ := ih (congrArg Closed.span hstep) hrest
      refine ⟨?_, hlast⟩
      show Passage.mk _ first.timeless _ :: _ = Passage.mk _ second.timeless _ :: _
      rw [hpassages, h, hstep]
      rfl

/-- **A run comes to the same at any time**, timing aside. -/
theorem run_congr {first second : Span} (h : first.timeless = second.timeless)
    {xs ys : List SpanTurn} (hturns : xs.map SpanTurn.timeless = ys.map SpanTurn.timeless) :
    (first.run xs).timeless = (second.run ys).timeless := by
  have herased : ∀ (span : Span) (turns : List SpanTurn), (span.run turns).timeless
      = ⟨(span.run turns).span.timeless,
          ((span.passages turns).map Passage.timeless).map fun p => p.done.summary,
          ((span.passages turns).map Passage.timeless).flatMap fun p => p.done.signals⟩ := by
    intro span turns
    unfold SpanRun.timeless
    rw [answers_run, signals_run, List.map_map, List.map_map, List.map_flatMap, List.flatMap_map]
    rfl
  obtain ⟨hpassages, hlast⟩ := passages_congr h hturns
  rw [herased, herased, hpassages, hlast]

end Span

/-- The span is dropped. -/
def SpanRun.drop (run : SpanRun) (panicking : Bool) (now : Moment) : SpanRun :=
  let done := run.span.drop panicking now
  ⟨done.span, run.answers, run.signals ++ done.signals⟩

/-- Dropping a span comes to the same at any time. -/
theorem SpanRun.drop_congr {first second : SpanRun} (h : first.timeless = second.timeless)
    (panicking : Bool) (now other : Moment) :
    (first.drop panicking now).timeless = (second.drop panicking other).timeless := by
  injection h with hspan hanswers hsignals
  have hdrop := Span.drop_congr hspan panicking now other
  injection hdrop with hlast _ hclosing
  unfold drop timeless
  dsimp only
  rw [List.map_append, List.map_append, hlast, hanswers, hsignals, hclosing]

namespace Instrumentor

/-- **The course of a span** up to some turn: it is opened and takes turns. -/
def course (inst : Instrumentor) (model provider : String) (operation : Option String)
    (opened : Moment) (turns : List SpanTurn) : SpanRun :=
  let start := inst.start model provider operation opened
  let run := start.span.run turns
  ⟨run.span, run.answers, start.signals ++ run.signals⟩

/-- **A course comes to the same at any time**, timing aside. -/
theorem course_congr (inst : Instrumentor) (model provider : String)
    (operation : Option String) (opened opened' : Moment) {xs ys : List SpanTurn}
    (hturns : xs.map SpanTurn.timeless = ys.map SpanTurn.timeless) :
    (inst.course model provider operation opened xs).timeless
      = (inst.course model provider operation opened' ys).timeless := by
  have hstart : (inst.start model provider operation opened).span.timeless
      = (inst.start model provider operation opened').span.timeless := rfl
  have hrun := Span.run_congr hstart hturns
  injection hrun with hspan hanswers hsent
  unfold course SpanRun.timeless
  dsimp only
  rw [List.map_append, List.map_append, hspan, hanswers, hsent]
  rfl

end Instrumentor
end CallScope
