import CallScope.Proofs.ClosedOnce
import CallScope.Proofs.KeyNames
import CallScope.Proofs.Timeless
import CallScope.Session

/-!
# What is traced is the image of what is recorded

A tracer and a recorder that always records differ in what they report, and
a span cannot tell them apart. It asks its handle only whether it records,
and the handle of a trace span answers no only when the trace span is gone –
which is when the span itself is closed, so that the answer no longer
matters (`Simulation.tracer`). Hence the span, its answers, what is booked and
what is logged are the same over both, and the trace is what the recorder
was told, call by call, in the terms of a trace (`TraceEvent.ofCall`).

A trace span only has the fields it was declared with. That loses the values
under any other name; and since a span numbers no tool call beyond its limit
and everything else it sets has a field, nothing is lost as long as the limit
does not exceed five (`Tracer.declares_text_iff`).
-/

namespace CallScope

/-! ## Keys that are set -/

theorem AttrKey.isWithin_of_le {key : AttrKey} {bound larger : Nat} (hle : bound ≤ larger)
    (h : key.isWithin bound = true) : key.isWithin larger = true := by
  cases key with
  | toolCallName index => exact decide_eq_true (Nat.lt_of_lt_of_le (of_decide_eq_true h) hle)
  | toolCallArguments index =>
    exact decide_eq_true (Nat.lt_of_lt_of_le (of_decide_eq_true h) hle)
  | _ => rfl

namespace Span

/-- Calls are numbered within the limit. -/
theorem isWithin_of_mem_callSignals {limits : Limits} {calls : List (Nat × OpenAiCall)}
    {key : AttrKey} {value : AttrValue}
    (h : Signal.attribute key value ∈ callSignals limits calls) :
    key.isWithin limits.indexedToolCalls.toNat = true := by
  rcases List.mem_append.mp h with h | h
  · obtain ⟨entry, -, h⟩ := List.mem_flatMap.mp h
    split at h
    · rename_i hlt
      rcases List.mem_cons.mp h with h | h
      · cases h
        exact decide_eq_true hlt
      · obtain ⟨arguments, -, h⟩ := Option.map_eq_some_iff.mp (Option.mem_toList.mp h)
        cases h
        exact decide_eq_true hlt
    · cases h
  · simp only [List.mem_cons, List.not_mem_nil, or_false] at h
    rcases h with h | h
    · cases h
      rfl
    · cases h
      rfl

/-- **A setter numbers no call beyond the limit.** -/
theorem isWithin_of_mem_record {span : Span} {setter : Setter} {key : AttrKey}
    {value : AttrValue} (h : Signal.attribute key value ∈ (span.record setter).signals) :
    key.isWithin span.limits.indexedToolCalls.toNat = true := by
  obtain ⟨asides, heq⟩ := record_eq setter
  rw [heq] at h
  rcases List.mem_append.mp h with h | h
  · rcases List.mem_append.mp h with h | h
    · cases hu : setter.usage? with
      | none => rw [hu] at h; cases h
      | some usage =>
        rw [hu] at h
        obtain ⟨other, value, heq, hother⟩ := exists_of_mem_usageSignals h
        cases heq
        cases key <;> first | rfl | cases hother
    · have haside : key.isAside = true := asides.isAside span _ h
      cases key <;> first | rfl | cases haside
  · split at h
    · cases h
    · exact isWithin_of_mem_callSignals h

/-- **A run numbers no call beyond the limit.** -/
theorem isWithin_of_mem_run {span : Span} {turns : List SpanTurn} {key : AttrKey}
    {value : AttrValue} (h : Signal.attribute key value ∈ (span.run turns).signals) :
    key.isWithin span.limits.indexedToolCalls.toNat = true := by
  induction turns generalizing span with
  | nil => cases h
  | cons turn turns ih =>
    rcases List.mem_append.mp h with h | h
    · rcases span.step_cases turn.recording turn.moment turn.op with ⟨setter, heq⟩ | ⟨-, -, hnone⟩
      · rw [heq] at h
        exact isWithin_of_mem_record h
      · exact absurd h (hnone key value)
    · -- the limits of the span are the same after the turn
      rw [← (span.continues_step turn.recording turn.moment turn.op).limits]
      exact ih h

end Span

/-- **A life numbers no call beyond the limit.** -/
theorem Instrumentor.isWithin_of_mem_life {inst : Instrumentor} {model provider : String}
    {operation : Option String} {opened : Moment} {turns : List SpanTurn} {panicking : Bool}
    {dropped : Moment} {key : AttrKey} {value : AttrValue}
    (h : Signal.attribute key value
      ∈ (inst.life model provider operation opened turns panicking dropped).signals) :
    key.isWithin inst.limits.indexedToolCalls.toNat = true := by
  rcases List.mem_append.mp h with h | h
  · rcases List.mem_append.mp h with h | h
    · have hidentity := isIdentity_of_mem_start h
      cases key <;> first | rfl | cases hidentity
    · exact Span.isWithin_of_mem_run h
  · unfold Span.drop Span.conclude at h
    split at h
    · exact absurd h (Span.attribute_notMem_closingSignals _ _ _ key value)
    · cases h

/-! ## Traces -/

/-- **What happens to a trace span.** -/
inductive TraceEvent where
  /-- It is opened with these fields. -/
  | opened (fields : List (String × AttrValue))
  /-- A field of it is given a value. -/
  | recorded (field : String) (value : AttrValue)
  | closed
deriving DecidableEq

namespace TraceEvent

/-- **The image of a call in a trace.** A value goes to the field of its name
if there is one, and nowhere otherwise. -/
def ofCall : HandleCall → List TraceEvent
  | .start name kind => [opened [("otel.name", .text name), ("otel.kind", .text kind.name)]]
  | .setAttribute key value =>
    if Tracer.declares key.text then [recorded key.text value] else []
  | .setStatus .ok => [recorded "otel.status_code" (.text "OK")]
  | .setStatus (.error message) => [
      recorded "otel.status_code" (.text "ERROR"),
      recorded "otel.status_message" (.text message)]
  | .recordError detail => [recorded "exception.message" (.text detail)]
  | .finish => [closed]

/-- What a report of a tracer does to its trace span. Recording no field does
nothing. -/
def ofSpanReport : SpanReport → List TraceEvent
  | .call _ => []
  | .traceOpened fields => [opened fields]
  | .traceRecorded fields => fields.map fun entry => recorded entry.1 entry.2
  | .traceClosed => [closed]

/-- What a report does to a trace span. -/
def ofReport : Report → List TraceEvent
  | .span _ report => ofSpanReport report
  | _ => []

/-- **A tracer does to its trace span what the image of the call says.** -/
theorem flatMap_trace (call : HandleCall) :
    (SpanHandle.trace call).flatMap ofSpanReport = ofCall call := by
  cases call with
  | setAttribute key value =>
    show (Tracer.fieldsOf key.text value).map _ ++ [] = _
    unfold Tracer.fieldsOf ofCall
    dsimp only
    split <;> rfl
  | setStatus status => cases status <;> rfl
  | _ => rfl

end TraceEvent

/-- The call that a report of a recorder is. -/
def Report.calls : Report → List HandleCall
  | .span _ (.call call) => [call]
  | _ => []

/-- Reports of signals one after another. -/
theorem Backends.reports_append (backends : Backends) (handle : SpanHandle) (number : Nat)
    (first second : List Signal) :
    backends.reports handle number (first ++ second)
      = backends.reports handle number first
        ++ backends.reports (first.foldl SpanHandle.afterSignal handle) number second := by
  induction first generalizing handle with
  | nil => rfl
  | cons signal first ih =>
    show _ ++ backends.reports _ number (first ++ second) = (_ ++ _) ++ _
    rw [ih, List.append_assoc]
    rfl

/-- What a recorder reports of signals is the calls among them. -/
theorem Backends.calls_reports (backends : Backends) {handle : SpanHandle}
    (hhandle : handle = ⟨.steadyRecorder, true⟩) (number : Nat) (signals : List Signal) :
    (backends.reports handle number signals).flatMap Report.calls
        = (signals.filterMap Signal.call?).flatMap ([·])
      ∧ signals.foldl SpanHandle.afterSignal handle = handle := by
  subst hhandle
  induction signals with
  | nil => exact ⟨rfl, rfl⟩
  | cons signal signals ih =>
    have hafter : SpanHandle.afterSignal ⟨.steadyRecorder, true⟩ signal
        = ⟨.steadyRecorder, true⟩ := by
      cases signal with
      | handle call => cases call <;> rfl
      | _ => rfl
    have hfirst : (backends.report ⟨.steadyRecorder, true⟩ number signal).flatMap Report.calls
        = ([signal].filterMap Signal.call?).flatMap ([·]) := by
      cases signal with
      | metric sample =>
        exact List.flatMap_eq_nil_iff.mpr fun report h => by
          obtain ⟨_, -, rfl⟩ := List.mem_map.mp h
          rfl
      | _ => rfl
    refine ⟨?_, ?_⟩
    · unfold reports
      rw [hafter, List.flatMap_append, hfirst, ih.1, ← List.flatMap_append,
        ← List.filterMap_append, List.singleton_append]
    · rw [List.foldl_cons, hafter, ih.2]

/-! ## Signals that are traced faithfully -/

/-- **Signals are traced faithfully** by a handle that is live before them or
not, and live after them or not: what happens to the trace span is the image
of the calls among them. -/
structure Traced (backends : Backends) (number : Nat) (before after : Bool)
    (signals : List Signal) : Prop where
  trace : (backends.reports ⟨.tracer, before⟩ number signals).flatMap TraceEvent.ofReport
    = (signals.filterMap Signal.call?).flatMap TraceEvent.ofCall
  handle : signals.foldl SpanHandle.afterSignal ⟨.tracer, before⟩ = ⟨.tracer, after⟩

namespace Traced

variable {backends : Backends} {number : Nat}

theorem nil (live : Bool) : Traced backends number live live [] := ⟨rfl, rfl⟩

/-- What a live handle reports of a signal is the image of its call. -/
theorem singleton {after : Bool} {signal : Signal}
    (h : SpanHandle.afterSignal ⟨.tracer, true⟩ signal = ⟨.tracer, after⟩) :
    Traced backends number true after [signal] := by
  refine ⟨?_, h⟩
  show (backends.report ⟨.tracer, true⟩ number signal ++ []).flatMap _ = _
  rw [List.append_nil]
  cases signal with
  | handle call =>
    show ((SpanHandle.trace call).map (Report.span number)).flatMap _ = TraceEvent.ofCall call ++ []
    rw [List.append_nil, List.flatMap_map]
    exact TraceEvent.flatMap_trace call
  | metric sample =>
    exact List.flatMap_eq_nil_iff.mpr fun report h => by
      obtain ⟨_, -, rfl⟩ := List.mem_map.mp h
      rfl
  | log record => rfl

theorem append {before middle after : Bool} {first second : List Signal}
    (h : Traced backends number before middle first)
    (h' : Traced backends number middle after second) :
    Traced backends number before after (first ++ second) := by
  refine ⟨?_, ?_⟩
  · rw [Backends.reports_append, h.handle, List.flatMap_append, h.trace, h'.trace,
      List.filterMap_append, List.flatMap_append]
  · rw [List.foldl_append, h.handle, h'.handle]

/-- Signals that do not end the handle are traced, and it lives on. -/
theorem of_ne_finish {signals : List Signal} (h : ∀ signal ∈ signals, signal ≠ .handle .finish) :
    Traced backends number true true signals := by
  induction signals with
  | nil => exact nil true
  | cons signal signals ih =>
    refine (singleton ?_).append (ih fun s hs => h s (List.mem_cons_of_mem _ hs))
    cases signal with
    | handle call =>
      cases call with
      | finish => exact absurd rfl (h _ List.mem_cons_self)
      | _ => rfl
    | _ => rfl

/-- **Closing a span is traced**, and with the span its handle is gone. -/
theorem conclude (span : Span) (failure : Option Failure) (now : Moment) :
    Traced backends number span.isOpen (span.conclude failure now).span.isOpen
      (span.conclude failure now).signals := by
  cases h : span.isOpen with
  | false =>
    rw [Span.conclude_of_closed h, h]
    exact nil false
  | true =>
    rw [Span.conclude_of_open h]
    refine append (of_ne_finish fun signal hs => ?_) (singleton rfl)
    rcases List.mem_append.mp hs with hs | hs
    · obtain ⟨sample, -, rfl⟩ := List.mem_map.mp hs
      exact Signal.noConfusion
    · cases failure with
      | none =>
        cases List.mem_singleton.mp hs
        exact fun h => by cases h
      | some failure =>
        simp only [Span.outcomeSignals, List.mem_cons, List.not_mem_nil, or_false] at hs
        rcases hs with rfl | rfl | rfl <;> exact fun h => by cases h

/-- **Every operation is traced**, and the handle is live as long as the span
is open. -/
theorem step (span : Span) (recording : Bool) (now : Moment) (op : SpanOp) :
    Traced backends number span.isOpen (span.step recording now op).span.isOpen
      (span.step recording now op).signals := by
  cases hop : op.outcome? with
  | some failure =>
    rw [Span.step_of_outcome hop]
    exact conclude span failure now
  | none =>
    cases h : span.isOpen with
    | false =>
      rw [Span.step_of_closed h, h]
      exact nil false
    | true =>
      obtain ⟨-, hopen, hsetting⟩ := Span.step_leaves_open hop span recording now
      rw [hopen, h]
      exact of_ne_finish fun signal hs heq => by
        have := hsetting signal hs
        rw [heq] at this
        cases this

end Traced

/-! ## Lives over backends -/

/-- **What operations on a held span come to**: the span afterwards, what
they answered, what was sent out, and what was reported of it. -/
structure HeldRun where
  held : HeldSpan
  answers : List (Option CallSummary)
  signals : List Signal
  reports : List Report

/-- **Operations one after another**, each at its moment. -/
def HeldSpan.run (backends : Backends) (switch : Bool) (held : HeldSpan) :
    List (Moment × SpanOp) → HeldRun
  | [] => ⟨held, [], [], []⟩
  | (now, op) :: ops =>
    let (next, done) := held.step switch now op
    let rest := next.run backends switch ops
    ⟨rest.held, done.summary :: rest.answers, done.signals ++ rest.signals,
      backends.reports held.handle held.number done.signals ++ rest.reports⟩

/-- Operations at the moments that a clock shows, from a count on. -/
def timed (clock : Nat → Moment) (count : Nat) : List SpanOp → List (Moment × SpanOp)
  | [] => []
  | op :: ops => (clock count, op) :: timed clock (count + 1) ops

/-- **A span over backends**, at the moments that a clock shows: it is opened
while trace spans are let through, and operations are done. -/
def Instrumentor.runOver (inst : Instrumentor) (backends : Backends) (switch : Bool)
    (model provider : String) (operation : Option String) (ops : List SpanOp)
    (clock : Nat → Moment) : HeldRun :=
  let start := inst.start model provider operation (clock 0)
  let opened : HeldSpan := ⟨start.span, .ofBackend backends.spans true, 0⟩
  let run := (opened.after start.span start.signals).run backends switch (timed clock 1 ops)
  ⟨run.held, run.answers, start.signals ++ run.signals,
    backends.reports opened.handle opened.number start.signals ++ run.reports⟩

namespace HeldRun

/-- The held span is dropped. -/
def drop (backends : Backends) (run : HeldRun) (panicking : Bool) (now : Moment) : HeldRun :=
  let done := run.held.span.drop panicking now
  ⟨run.held.after done.span done.signals, run.answers, run.signals ++ done.signals,
    run.reports ++ backends.reports run.held.handle run.held.number done.signals⟩

/-- A run without the handle and what was reported. -/
def plain (run : HeldRun) : SpanRun := ⟨run.held.span, run.answers, run.signals⟩

end HeldRun

/-- A turn whose handle records. -/
def recordingTurn (entry : Moment × SpanOp) : SpanTurn := ⟨true, entry.1, entry.2⟩

/-! ## Simulations -/

/-- **Backends over which a span does what it does over a handle that always
records**, and whose reports, viewed in some way, are the image of what the
handle is told. -/
structure Simulation (backends : Backends) (α : Type) where
  /-- What holds of a held span and its handle at any time. -/
  invariant : HeldSpan → Prop
  view : Report → List α
  image : HandleCall → List α
  /-- The handle may as well record. -/
  done_eq : ∀ {held : HeldSpan}, invariant held → ∀ (switch : Bool) (now : Moment) (op : SpanOp),
    (held.step switch now op).2 = held.span.step true now op
  /-- The invariant holds after opening, and the reports are the image. -/
  opening : ∀ (inst : Instrumentor) (model provider : String) (operation : Option String)
    (now : Moment),
    let start := inst.start model provider operation now
    let opened : HeldSpan := ⟨start.span, .ofBackend backends.spans true, 0⟩
    invariant (opened.after start.span start.signals)
      ∧ (backends.reports opened.handle opened.number start.signals).flatMap view
        = (start.signals.filterMap Signal.call?).flatMap image
  /-- An operation keeps the invariant, and the reports are the image. -/
  step : ∀ {held : HeldSpan}, invariant held → ∀ (now : Moment) (op : SpanOp),
    let done := held.span.step true now op
    invariant (held.after done.span done.signals)
      ∧ (backends.reports held.handle held.number done.signals).flatMap view
        = (done.signals.filterMap Signal.call?).flatMap image

namespace Simulation

variable {backends : Backends} {α : Type}

/-- Dropping a span is failing as one that was abandoned. -/
theorem drop_eq_step (span : Span) (panicking : Bool) (now : Moment) :
    span.drop panicking now
      = span.step true now (.fail (if panicking then .panicked else .cancelled)) := rfl

/-- **A run over simulating backends** is a run with a handle that always
records, and its reports are the image of the calls. -/
theorem run (sim : Simulation backends α) {held : HeldSpan} (h : sim.invariant held)
    (switch : Bool) (ops : List (Moment × SpanOp)) :
    let run := held.run backends switch ops
    let plain := held.span.run (ops.map recordingTurn)
    sim.invariant run.held ∧ run.plain = plain
      ∧ run.reports.flatMap sim.view
        = (plain.signals.filterMap Signal.call?).flatMap sim.image := by
  induction ops generalizing held with
  | nil => exact ⟨h, rfl, rfl⟩
  | cons entry ops ih =>
    obtain ⟨now, op⟩ := entry
    have hdone := sim.done_eq h switch now op
    obtain ⟨hnext, hfirst⟩ := sim.step h now op
    have hstep : (held.step switch now op).1
        = held.after (held.span.step true now op).span (held.span.step true now op).signals := by
      rw [← hdone]
      rfl
    rw [← hstep] at hnext
    obtain ⟨hlast, hrun, hreports⟩ := ih hnext
    rw [hstep] at hrun hreports hlast
    obtain ⟨hspan, hanswers, hsignals⟩ := SpanRun.mk.inj hrun
    refine ⟨?_, ?_, ?_⟩
    · unfold HeldSpan.run
      dsimp only
      rw [hstep]
      exact hlast
    · unfold HeldSpan.run HeldRun.plain
      dsimp only
      rw [hstep, hdone, hspan, hanswers, hsignals]
      rfl
    · unfold HeldSpan.run
      dsimp only
      rw [hstep, hdone, List.flatMap_append, hfirst, hreports, ← List.flatMap_append,
        ← List.filterMap_append]
      rfl

/-- **A tracer simulates a handle that always records.** Its handle is live as
long as the span is open: it answers no only when the span is closed and does
not care. -/
def tracer (metrics : MetricsBackend) : Simulation ⟨.tracer, metrics⟩ TraceEvent where
  invariant held := held.handle = ⟨.tracer, held.span.isOpen⟩
  view := TraceEvent.ofReport
  image := TraceEvent.ofCall
  done_eq {held} h switch now op := by
    show held.span.step (held.handle.isRecording switch) now op = _
    rw [h]
    cases hopen : held.span.isOpen with
    | true => rfl
    | false => rw [Span.step_of_closed hopen, Span.step_of_closed hopen]
  opening inst model provider operation now := by
    have htraced : Traced ⟨.tracer, metrics⟩ 0 true true
        (inst.start model provider operation now).signals :=
      .of_ne_finish fun signal hs heq => by
        have hinterim := Instrumentor.isInterim_of_mem_start hs
        rw [heq] at hinterim
        cases hinterim
    exact ⟨htraced.handle, htraced.trace⟩
  step {held} h now op := by
    have htraced : Traced ⟨.tracer, metrics⟩ held.number held.span.isOpen
        (held.span.step true now op).span.isOpen (held.span.step true now op).signals :=
      .step held.span true now op
    refine ⟨?_, ?_⟩
    · show _ = SpanHandle.mk .tracer (held.span.step true now op).span.isOpen
      rw [← htraced.handle, ← h]
      rfl
    · rw [h]
      exact htraced.trace

/-- **A recorder that always records** reports the calls themselves. -/
def recorder (metrics : MetricsBackend) : Simulation ⟨.steadyRecorder, metrics⟩ HandleCall where
  invariant held := held.handle = ⟨.steadyRecorder, true⟩
  view := Report.calls
  image call := [call]
  done_eq {held} h switch now op := by
    show held.span.step (held.handle.isRecording switch) now op = _
    rw [h]
    rfl
  opening inst model provider operation now := by
    obtain ⟨hcalls, hhandle⟩ := Backends.calls_reports ⟨.steadyRecorder, metrics⟩ rfl 0
      (inst.start model provider operation now).signals
    exact ⟨hhandle, hcalls⟩
  step {held} h now op := by
    obtain ⟨hcalls, hhandle⟩ := Backends.calls_reports ⟨.steadyRecorder, metrics⟩ h held.number
      (held.span.step true now op).signals
    exact ⟨hhandle.trans h, hcalls⟩

/-- **A span over simulating backends.** -/
theorem runOver (sim : Simulation backends α) (inst : Instrumentor) (switch : Bool)
    (model provider : String) (operation : Option String) (ops : List SpanOp)
    (clock : Nat → Moment) :
    let run := inst.runOver backends switch model provider operation ops clock
    sim.invariant run.held
      ∧ run.plain = inst.course model provider operation (clock 0)
        ((timed clock 1 ops).map recordingTurn)
      ∧ run.reports.flatMap sim.view = (run.signals.filterMap Signal.call?).flatMap sim.image := by
  obtain ⟨hopened, hopening⟩ := sim.opening inst model provider operation (clock 0)
  obtain ⟨hlast, hrun, hreports⟩ := sim.run hopened switch (timed clock 1 ops)
  obtain ⟨hspan, hanswers, hsignals⟩ := SpanRun.mk.inj hrun
  refine ⟨hlast, ?_, ?_⟩
  · unfold Instrumentor.runOver HeldRun.plain
    dsimp only
    rw [hspan, hanswers, hsignals]
    rfl
  · unfold Instrumentor.runOver
    dsimp only
    rw [List.flatMap_append, hopening, hreports, ← hsignals, ← List.flatMap_append,
      ← List.filterMap_append]

/-- Dropping a span over simulating backends. -/
theorem drop (sim : Simulation backends α) {run : HeldRun} (h : sim.invariant run.held)
    (hreports : run.reports.flatMap sim.view
      = (run.signals.filterMap Signal.call?).flatMap sim.image) (panicking : Bool)
    (now : Moment) :
    let last := run.drop backends panicking now
    last.reports.flatMap sim.view
      = (last.signals.filterMap Signal.call?).flatMap sim.image := by
  have hdrop := (sim.step h now (.fail (if panicking then .panicked else .cancelled))).2
  rw [← drop_eq_step] at hdrop
  unfold HeldRun.drop
  dsimp only
  rw [List.flatMap_append, hreports, hdrop, List.filterMap_append, List.flatMap_append]

end Simulation

/-! ## Two runs of one span -/

theorem timeless_timed (clock other : Nat → Moment) (count : Nat) (ops : List SpanOp) :
    ((timed clock count ops).map recordingTurn).map SpanTurn.timeless
      = ((timed other count ops).map recordingTurn).map SpanTurn.timeless := by
  induction ops generalizing count with
  | nil => rfl
  | cons op ops ih => exact congrArg (_ :: ·) (ih (count + 1))

/-- **What a tracer makes of a span refines what a recorder makes of it.** -/
structure Refines (limits : Limits) (traced recorded : HeldRun) : Prop where
  /-- The span is the same. -/
  state : traced.held.span.timeless = recorded.held.span.timeless
  /-- Its operations answer the same. -/
  answers : traced.answers.map (Option.map CallSummary.timeless)
    = recorded.answers.map (Option.map CallSummary.timeless)
  /-- The same is booked. -/
  samples : (traced.signals.filterMap Signal.sample?).map Sample.timeless
    = (recorded.signals.filterMap Signal.sample?).map Sample.timeless
  /-- The same is logged. -/
  logs : traced.signals.filterMap Signal.log? = recorded.signals.filterMap Signal.log?
  /-- What happens to the trace span is the image of what is recorded. -/
  trace : traced.reports.flatMap TraceEvent.ofReport
    = (recorded.reports.flatMap Report.calls).flatMap TraceEvent.ofCall
  /-- No attribute is lost unless calls are numbered beyond the fifth. -/
  lossless : limits.indexedToolCalls.toNat ≤ 5 → ∀ key value,
    .setAttribute key value ∈ recorded.reports.flatMap Report.calls →
      Tracer.declares key.text = true
        ∧ .recorded key.text value ∈ traced.reports.flatMap TraceEvent.ofReport

/-- Two runs that come to the same, timing aside, with the trace of one and
the calls of the other. -/
theorem refines_of_plain {limits : Limits} {traced recorded : HeldRun}
    (hplain : traced.plain.timeless = recorded.plain.timeless)
    (htrace : traced.reports.flatMap TraceEvent.ofReport
      = (traced.signals.filterMap Signal.call?).flatMap TraceEvent.ofCall)
    (hcalls : recorded.reports.flatMap Report.calls = recorded.signals.filterMap Signal.call?)
    (hwithin : ∀ key value, Signal.attribute key value ∈ recorded.signals →
      key.isWithin limits.indexedToolCalls.toNat = true) :
    Refines limits traced recorded := by
  obtain ⟨hspan, hanswers, hsignals⟩ := SpanRun.mk.inj hplain
  change traced.signals.map Signal.timeless = recorded.signals.map Signal.timeless at hsignals
  have himage : traced.reports.flatMap TraceEvent.ofReport
      = (recorded.reports.flatMap Report.calls).flatMap TraceEvent.ofCall := by
    rw [htrace, hcalls, (views_congr hsignals).1]
  refine ⟨hspan, hanswers, (views_congr hsignals).2.1, (views_congr hsignals).2.2, himage,
    fun hlimit key value hmem => ?_⟩
  · have hdeclared : Tracer.declares key.text = true := by
      rw [hcalls] at hmem
      obtain ⟨signal, hs, hcall⟩ := List.mem_filterMap.mp hmem
      have hsignal : signal = Signal.attribute key value := by
        cases signal <;> cases hcall
        rfl
      rw [hsignal] at hs
      exact Tracer.declares_text_iff.mpr (AttrKey.isWithin_of_le hlimit (hwithin key value hs))
    refine ⟨hdeclared, ?_⟩
    rw [himage]
    refine List.mem_flatMap.mpr ⟨_, hmem, ?_⟩
    show _ ∈ if Tracer.declares key.text then [TraceEvent.recorded key.text value] else []
    rw [if_pos hdeclared]
    exact List.mem_singleton_self _

namespace Instrumentor

/-- **What a tracer makes of a span refines what a recorder makes of it**,
before the span is dropped and after: the span, what it answers, what is
booked and what is logged are the same at whatever moments, and the trace is
the image of what was recorded. -/
theorem runOver_refines (config : Config) (metrics : MetricsBackend) (switch other : Bool)
    (model provider : String) (operation : Option String) (ops : List SpanOp)
    (panicking : Bool) (clock clock' : Nat → Moment) (dropped dropped' : Moment) :
    let tracing : Backends := ⟨.tracer, metrics⟩
    let recording : Backends := ⟨.steadyRecorder, metrics⟩
    let inst := ofConfig config
    let traced := inst.runOver tracing switch model provider operation ops clock
    let recorded := inst.runOver recording other model provider operation ops clock'
    Refines config.limits traced recorded
      ∧ Refines config.limits (traced.drop tracing panicking dropped)
        (recorded.drop recording panicking dropped') := by
  intro tracing recording inst traced recorded
  obtain ⟨htracer, htraced, htrace⟩ := (Simulation.tracer metrics).runOver inst switch model
    provider operation ops clock
  obtain ⟨hrecorder, hrecorded, hcalls⟩ := (Simulation.recorder metrics).runOver inst other model
    provider operation ops clock'
  have hplain : traced.plain.timeless = recorded.plain.timeless := by
    rw [show traced.plain = _ from htraced, show recorded.plain = _ from hrecorded]
    exact inst.course_congr model provider operation _ _ (timeless_timed clock clock' 1 ops)
  refine ⟨refines_of_plain hplain htrace (hcalls.trans (List.flatMap_singleton' _)) ?_,
    refines_of_plain (SpanRun.drop_congr hplain panicking dropped dropped')
      ((Simulation.tracer metrics).drop htracer htrace panicking dropped)
      (((Simulation.recorder metrics).drop hrecorder hcalls panicking dropped').trans
        (List.flatMap_singleton' _)) ?_⟩
  · intro key value hmem
    rw [show recorded.signals = _ from congrArg SpanRun.signals hrecorded] at hmem
    have hlife : Signal.attribute key value ∈ (inst.life model provider operation (clock' 0)
        ((timed clock' 1 ops).map recordingTurn) panicking dropped').signals :=
      List.mem_append_left _ hmem
    exact isWithin_of_mem_life hlife
  · intro key value hmem
    rw [show (recorded.drop recording panicking dropped').signals = _ from
      congrArg SpanRun.signals (congrArg (SpanRun.drop · panicking dropped') hrecorded)] at hmem
    exact isWithin_of_mem_life hmem

end Instrumentor
end CallScope
