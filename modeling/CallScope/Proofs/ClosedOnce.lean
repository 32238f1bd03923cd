import CallScope.Proofs.Run

/-!
# A span is closed exactly once

A span can be closed in five ways: as a success, as a failure, with the
outcome of its call, by a failure that it observes, and by being dropped.
They may come in any order and any number of times, with setters between
them, and still the life of a span sends one closing block and nothing
behind it.

The reason is in one equation (`Span.signals_run_drop`): what a span sends
after it was opened is a list of attributes and warnings followed by the
signals of closing it, with the outcome of whatever closed it first
(`Ending.ofTurns`). Everything that is said of the life of a span
(`ClosedOnce`) is read off that equation.
-/

namespace CallScope

/-! ## Signals that leave the outcome open -/

namespace Signal

/-- **Whether a signal leaves the outcome open**: the start of the handle,
an attribute, or a warning. -/
def isInterim : Signal → Bool
  | .handle (.start _ _) => true
  | signal => signal.isSetting

/-- Settings leave the outcome open. -/
theorem isInterim_of_isSetting {signal : Signal} (h : signal.isSetting = true) :
    signal.isInterim = true := by
  unfold isInterim
  split
  · rfl
  · exact h

/-- **A signal that leaves the outcome open** starts the handle or sets an
attribute if it goes to the handle at all; it books no sample and tells of
no failed call. -/
theorem cases_of_isInterim {signal : Signal} (h : signal.isInterim = true) :
    (∃ name kind, signal = .handle (.start name kind))
      ∨ (∃ key value, signal = .attribute key value)
      ∨ ∃ message fields, signal = .log ⟨.warn, message, fields⟩ := by
  cases signal with
  | handle call =>
    cases call with
    | start name kind => exact .inl ⟨name, kind, rfl⟩
    | setAttribute key value => exact .inr (.inl ⟨key, value, rfl⟩)
    | _ => cases h
  | metric sample => cases h
  | log record =>
    obtain ⟨level, message, fields⟩ := record
    cases level with
    | warn => exact .inr (.inr ⟨message, fields, rfl⟩)
    | error => cases h

end Signal

namespace HandleCall

/-- The status that a call sets. -/
def status? : HandleCall → Option SpanStatus
  | .setStatus status => some status
  | _ => none

/-- The error that a call records. -/
def error? : HandleCall → Option String
  | .recordError detail => some detail
  | _ => none

/-- Whether a call starts the handle or sets an attribute. -/
def isInterim : HandleCall → Bool
  | .start _ _ | .setAttribute _ _ => true
  | _ => false

end HandleCall

/-! ## How a life ends -/

/-- **How a life ends**: when, and with which failure if it is one. -/
structure Ending where
  failure : Option Failure
  moment : Moment

/-- **The first turn with an outcome ends a life.** If no turn has one, the
span is abandoned by being dropped. -/
def Ending.ofTurns (panicking : Bool) (dropped : Moment) : List SpanTurn → Ending
  | [] => ⟨some (if panicking then .panicked else .cancelled), dropped⟩
  | turn :: turns =>
    match turn.op.outcome? with
    | some failure => ⟨failure, turn.moment⟩
    | none => ofTurns panicking dropped turns

namespace Span

/-- **What a span sends after it was opened**: attributes and warnings, then
the signals of closing it as it is in the end, with the outcome of its
ending. -/
theorem signals_run_drop {span : Span} (h : span.isOpen = true) (turns : List SpanTurn)
    (panicking : Bool) (dropped : Moment) :
    let last := (span.run turns).span.drop panicking dropped
    let ending := Ending.ofTurns panicking dropped turns
    last.span.isOpen = false
      ∧ ∃ settings : List Signal, (∀ signal ∈ settings, signal.isSetting = true)
        ∧ (span.run turns).signals ++ last.signals
          = settings ++ last.span.closingSignals ending.failure ending.moment := by
  induction turns generalizing span with
  | nil =>
    dsimp only [run_nil, drop, Ending.ofTurns]
    rw [conclude_of_open h]
    exact ⟨rfl, [], by simp, rfl⟩
  | cons turn turns ih =>
    cases hop : turn.op.outcome? with
    | some failure =>
      -- the turn closes the span, and nothing that comes after it counts
      have hclosed : ({ span with isOpen := false } : Span).isOpen = false := rfl
      simp only [run, Ending.ofTurns, hop, drop]
      rw [step_of_outcome hop, conclude_of_open h]
      dsimp only
      rw [run_of_closed hclosed, conclude_of_closed hclosed]
      refine ⟨rfl, [], by simp, ?_⟩
      rw [List.append_nil, List.append_nil, List.nil_append]
      rfl
    | none =>
      obtain ⟨-, hopen, hsetting⟩ :=
        step_leaves_open hop span turn.recording turn.moment
      obtain ⟨hlast, settings, hsettings, heq⟩ := ih (hopen.trans h)
      simp only [run, Ending.ofTurns, hop]
      refine ⟨hlast, (span.step turn.recording turn.moment turn.op).signals ++ settings,
        fun signal hs => ?_, ?_⟩
      · exact (List.mem_append.mp hs).elim (hsetting signal) (hsettings signal)
      · rw [List.append_assoc, heq, List.append_assoc]

end Span

/-! ## What the signals of a life amount to -/

/-- Signals that leave the outcome open make no other calls to the handle
than its start and attributes. -/
theorem isInterim_calls {interim : List Signal}
    (h : ∀ signal ∈ interim, signal.isInterim = true) :
    ∀ call ∈ interim.filterMap Signal.call?, call.isInterim = true := by
  intro call hc
  obtain ⟨signal, hs, hcall⟩ := List.mem_filterMap.mp hc
  rcases Signal.cases_of_isInterim (h signal hs) with ⟨_, _, rfl⟩ | ⟨_, _, rfl⟩ | ⟨_, _, rfl⟩
  · cases hcall; rfl
  · cases hcall; rfl
  · cases hcall

/-- A signal that leaves the outcome open books nothing and tells of no failed
call. -/
theorem silent_of_isInterim {signal : Signal} (h : signal.isInterim = true) :
    signal.sample? = none ∧ signal.errorRecord? = none := by
  rcases Signal.cases_of_isInterim h with ⟨_, _, rfl⟩ | ⟨_, _, rfl⟩ | ⟨_, _, rfl⟩ <;>
    exact ⟨rfl, rfl⟩

theorem samples_interim {interim : List Signal}
    (h : ∀ signal ∈ interim, signal.isInterim = true) :
    interim.filterMap Signal.sample? = [] :=
  List.filterMap_eq_nil_iff.mpr fun signal hs => (silent_of_isInterim (h signal hs)).1

theorem errorRecords_interim {interim : List Signal}
    (h : ∀ signal ∈ interim, signal.isInterim = true) :
    interim.filterMap Signal.errorRecord? = [] :=
  List.filterMap_eq_nil_iff.mpr fun signal hs => (silent_of_isInterim (h signal hs)).2

namespace HandleCall

/-- A call that starts the handle or sets an attribute sets no status, records
no error, and does not end the handle. -/
theorem silent_of_isInterim {call : HandleCall} (h : call.isInterim = true) :
    call.status? = none ∧ call.error? = none ∧ call ≠ .finish := by
  cases call with
  | start name kind => exact ⟨rfl, rfl, HandleCall.noConfusion⟩
  | setAttribute key value => exact ⟨rfl, rfl, HandleCall.noConfusion⟩
  | _ => cases h

theorem statuses_interim {calls : List HandleCall} (h : ∀ call ∈ calls, call.isInterim = true) :
    calls.filterMap status? = [] :=
  List.filterMap_eq_nil_iff.mpr fun call hc => (silent_of_isInterim (h call hc)).1

theorem errors_interim {calls : List HandleCall} (h : ∀ call ∈ calls, call.isInterim = true) :
    calls.filterMap error? = [] :=
  List.filterMap_eq_nil_iff.mpr fun call hc => (silent_of_isInterim (h call hc)).2.1

theorem count_finish_interim {calls : List HandleCall}
    (h : ∀ call ∈ calls, call.isInterim = true) : calls.count .finish = 0 :=
  List.count_eq_zero.mpr fun hmem => (silent_of_isInterim (h .finish hmem)).2.2 rfl

end HandleCall

namespace Span

/-- What the handle is told when a span is closed. -/
def closingCalls (failure : Option Failure) : List HandleCall :=
  .setStatus (statusOf failure)
    :: ((failure.map fun f => HandleCall.recordError f.detail).toList ++ [.finish])

/-- The signals of closing a span, looked at in some way: the samples, the
outcome, and the end of the handle. -/
theorem filterMap_closingSignals {α : Type} (view : Signal → Option α) (span : Span)
    (failure : Option Failure) (now : Moment) :
    (span.closingSignals failure now).filterMap view
      = (span.samples now).filterMap (fun sample => view (.metric sample))
        ++ ((span.outcomeSignals failure).filterMap view ++ (view (.handle .finish)).toList) := by
  have hfinish : [Signal.handle .finish].filterMap view = (view (.handle .finish)).toList := by
    rw [List.filterMap_cons]
    cases view (.handle .finish) <;> rfl
  unfold closingSignals
  rw [List.filterMap_append, List.filterMap_append, List.filterMap_map, List.append_assoc, hfinish]
  rfl

theorem calls_closingSignals (span : Span) (failure : Option Failure) (now : Moment) :
    (span.closingSignals failure now).filterMap Signal.call? = closingCalls failure := by
  have hsamples : (span.samples now).filterMap (fun sample => Signal.call? (.metric sample))
      = [] := List.filterMap_eq_nil_iff.mpr fun _ _ => rfl
  rw [filterMap_closingSignals, hsamples]
  cases failure <;> rfl

theorem samples_closingSignals (span : Span) (failure : Option Failure) (now : Moment) :
    (span.closingSignals failure now).filterMap Signal.sample? = span.samples now := by
  have hsamples : (span.samples now).filterMap (fun sample => Signal.sample? (.metric sample))
      = span.samples now := List.filterMap_some
  have houtcome : (span.outcomeSignals failure).filterMap Signal.sample? = [] := by
    cases failure <;> rfl
  rw [filterMap_closingSignals, hsamples, houtcome]
  exact List.append_nil _

theorem errorRecords_closingSignals (span : Span) (failure : Option Failure) (now : Moment) :
    (span.closingSignals failure now).filterMap Signal.errorRecord?
      = (failure.map span.failureLog).toList := by
  have hsamples : (span.samples now).filterMap (fun sample => Signal.errorRecord? (.metric sample))
      = [] := List.filterMap_eq_nil_iff.mpr fun _ _ => rfl
  rw [filterMap_closingSignals, hsamples]
  cases failure <;> rfl

/-- In the signals of closing a span, no sample comes behind the status. -/
theorem closingSignals_status (span : Span) (failure : Option Failure) (now : Moment) :
    ∃ before after, span.closingSignals failure now
        = before ++ .handle (.setStatus (statusOf failure)) :: after
      ∧ after.filterMap Signal.sample? = [] := by
  cases failure with
  | none => exact ⟨(span.samples now).map .metric, [.handle .finish], List.append_assoc .., rfl⟩
  | some f =>
    refine ⟨(span.samples now).map .metric ++ [.log (span.failureLog f)],
      [.handle (.recordError f.detail), .handle .finish], ?_, rfl⟩
    unfold closingSignals outcomeSignals
    rw [List.append_assoc, List.append_assoc]
    rfl

end Span

/-- **Signals that close a span exactly once**, with a given ending. -/
structure ClosedOnce (span : Span) (ending : Ending) (signals : List Signal) : Prop where
  /-- The handle is told of its start and of attributes, then of the status,
  of the detail if it is a failure, and at last of its end. -/
  calls : ∃ earlier : List HandleCall, (∀ call ∈ earlier, call.isInterim = true)
    ∧ signals.filterMap Signal.call?
      = earlier ++ .setStatus (Span.statusOf ending.failure)
        :: ((ending.failure.map fun f => HandleCall.recordError f.detail).toList ++ [.finish])
  /-- One status is set. -/
  statuses : (signals.filterMap Signal.call?).filterMap HandleCall.status?
    = [Span.statusOf ending.failure]
  /-- An error is recorded once if the call failed and never otherwise. -/
  errors : (signals.filterMap Signal.call?).filterMap HandleCall.error?
    = (ending.failure.map Failure.detail).toList
  /-- The handle is ended once. -/
  finishes : (signals.filterMap Signal.call?).count .finish = 1
  /-- Ending the handle is the last call to it. -/
  finish_last : (signals.filterMap Signal.call?).getLast? = some .finish
  /-- One request is booked, then one duration, then the tokens if the usage
  that the span keeps has a positive total. -/
  samples : signals.filterMap Signal.sample?
    = .counter span.metrics.requests 1 span.tags
      :: .histogram span.metrics.duration (span.openedAt.millisUntil ending.moment) span.tags
      :: match span.usage with
        | some usage =>
          if 0 < usage.total then [.counter span.metrics.tokens usage.total span.tags] else []
        | none => []
  /-- Everything is booked before the status is set. -/
  samples_first : ∃ before after,
    signals = before ++ .handle (.setStatus (Span.statusOf ending.failure)) :: after
      ∧ after.filterMap Signal.sample? = []
  /-- The log tells of the failed call once if it failed and never
  otherwise. -/
  errorRecords : signals.filterMap Signal.errorRecord?
    = (ending.failure.map span.failureLog).toList

/-- Closing signals behind signals that leave the outcome open close the
span exactly once. -/
theorem closedOnce_append {interim : List Signal}
    (h : ∀ signal ∈ interim, signal.isInterim = true) (span : Span) (ending : Ending) :
    ClosedOnce span ending (interim ++ span.closingSignals ending.failure ending.moment) := by
  have hcalls : (interim ++ span.closingSignals ending.failure ending.moment).filterMap
      Signal.call? = interim.filterMap Signal.call? ++ Span.closingCalls ending.failure := by
    rw [List.filterMap_append, Span.calls_closingSignals]
  have hinterim := isInterim_calls h
  refine ⟨⟨_, hinterim, hcalls⟩, ?_, ?_, ?_, ?_, ?_, ?_, ?_⟩
  · rw [hcalls, List.filterMap_append, HandleCall.statuses_interim hinterim]
    cases ending.failure <;> rfl
  · rw [hcalls, List.filterMap_append, HandleCall.errors_interim hinterim]
    cases ending.failure <;> rfl
  · rw [hcalls, List.count_append, HandleCall.count_finish_interim hinterim]
    cases ending.failure <;> rfl
  · rw [hcalls, List.getLast?_append]
    cases ending.failure <;> rfl
  · rw [List.filterMap_append, samples_interim h, Span.samples_closingSignals]
    rfl
  · obtain ⟨before, after, heq, hafter⟩ :=
      span.closingSignals_status ending.failure ending.moment
    exact ⟨interim ++ before, after, by rw [heq, List.append_assoc], hafter⟩
  · rw [List.filterMap_append, errorRecords_interim h, Span.errorRecords_closingSignals]
    rfl

namespace Instrumentor

/-- Opening a span leaves its outcome open. -/
theorem isInterim_of_mem_start {inst : Instrumentor} {model provider : String}
    {operation : Option String} {now : Moment} {signal : Signal}
    (h : signal ∈ (inst.start model provider operation now).signals) :
    signal.isInterim = true := by
  obtain ⟨warnings, hwarnings, heq⟩ := inst.signals_start model provider operation now
  rw [heq] at h
  rcases List.mem_append.mp h with h | h
  · obtain ⟨message, fields, rfl⟩ := hwarnings signal h
    rfl
  · simp only [identity, List.mem_cons, List.not_mem_nil, or_false] at h
    rcases h with rfl | rfl | rfl | rfl | rfl <;> rfl

end Instrumentor
end CallScope
