import CallScope.Instrumentor
import CallScope.Span.Observation
import CallScope.Telemetry.MetricsBackend
import CallScope.Telemetry.SpanBackend

/-!
# Sessions

A session holds any number of spans that one instrumentor has opened, each
under a name, and hands their signals to a pair of backends. It is where
spans meet handles: the session asks a span's handle whether it records
before each step, and turns the signals of the step into reports.

Each step touches one span only, so that the steps of different spans may
come in any order. Spans of a session share nothing but the numbering of
started handles and the two switches that stand for the world outside: the
recorder's, and whether tracing is on.
-/

namespace CallScope

open Json

/-- **Where signals go.** -/
structure Backends where
  spans : SpanBackend
  metrics : MetricsBackend
deriving DecidableEq

namespace Backends

/-- Trace spans, and metrics behind the facade. -/
def tracing : Backends := ⟨.tracer, .facade⟩

/-- Nothing is reported. -/
def discard : Backends := ⟨.discard, .discard⟩

end Backends

/-- **What a session reports.** -/
inductive Report where
  /-- A report of the handle with that number. -/
  | span (number : Nat) (report : SpanReport)
  | metrics (report : MetricsReport)
  | log (record : LogRecord)
deriving DecidableEq

/-- A span that is held, with its handle and the handle's number. -/
structure HeldSpan where
  span : Span
  handle : SpanHandle
  number : Nat

/-- **A session.** -/
structure Session where
  backends : Backends
  instrumentor : Instrumentor
  /-- The recorder's switch. -/
  switch : Bool := true
  /-- Whether trace spans are let through when they are started. -/
  tracing : Bool := true
  /-- How many handles have been started that report anything. -/
  started : Nat := 0
  /-- The spans that are held, in the order of their names. -/
  held : List (String × HeldSpan) := []

namespace Backends

/-- What is reported of a signal that comes from a span with a handle. -/
def report (backends : Backends) (handle : SpanHandle) (number : Nat) : Signal → List Report
  | .handle call => (handle.report call).map (.span number)
  | .metric sample => (backends.metrics.report sample).map .metrics
  | .log record => [.log record]

/-- **What is reported of signals** in their order, each of which finds the
handle as the ones before have left it. -/
def reports (backends : Backends) (handle : SpanHandle) (number : Nat) :
    List Signal → List Report
  | [] => []
  | signal :: signals =>
    backends.report handle number signal
      ++ backends.reports (handle.afterSignal signal) number signals

end Backends

/-! ## Held spans -/

namespace HeldSpan

/-- A held span after an operation has changed it and sent out signals. -/
def after (held : HeldSpan) (span : Span) (signals : List Signal) : HeldSpan :=
  { held with span, handle := signals.foldl SpanHandle.afterSignal held.handle }

/-- **Do something with a held span**: its handle answers whether it records,
and hears what is sent out. -/
def step (held : HeldSpan) (switch : Bool) (now : Moment) (op : SpanOp) :
    HeldSpan × Span.Closed :=
  let done := held.span.step (held.handle.isRecording switch) now op
  (held.after done.span done.signals, done)

end HeldSpan

/-- Hold a span under a name, in place of one that was held under it. -/
def insertHeld (id : String) (held : HeldSpan) :
    List (String × HeldSpan) → List (String × HeldSpan)
  | [] => [(id, held)]
  | (k, other) :: rest =>
    if k = id then (id, held) :: rest
    else if id < k then (id, held) :: (k, other) :: rest
    else (k, other) :: insertHeld id held rest

/-- Let go of the span under a name. -/
def eraseHeld (id : String) (spans : List (String × HeldSpan)) : List (String × HeldSpan) :=
  spans.filter fun entry => entry.1 != id

namespace Session

/-- The span that is held under a name. -/
def find? (session : Session) (id : String) : Option HeldSpan := session.held.lookup id

/-- The signals of a held span as reports. -/
def reportsOf (session : Session) (held : HeldSpan) (signals : List Signal) : List Report :=
  session.backends.reports held.handle held.number signals

/-- Drop a span. -/
def dropReports (session : Session) (held : HeldSpan) (panicking : Bool) (now : Moment) :
    List Report :=
  session.reportsOf held (held.span.drop panicking now).signals

/-- **Set up a session**: the instruments are described. -/
def setup (backends : Backends) (config : Config) (switch tracing : Bool) :
    Session × List Report :=
  let instrumentor := Instrumentor.ofConfig config
  (⟨backends, instrumentor, switch, tracing, 0, []⟩,
    backends.reports ⟨backends.spans, false⟩ 0 instrumentor.setupSignals)

/-! ## Steps -/

/-- **What may be done in a session.** -/
inductive Step where
  /-- Open a span under a name; one that was held under it is dropped. -/
  | start (id model provider : String) (operation : Option String)
  /-- Open a span for an endpoint. -/
  | startAt (id model url : String)
  | apply (id : String) (op : SpanOp)
  /-- Observe a call, polling it so many times, and give up after that. -/
  | observe (id : String) (polls : Nat) (call : PendingCall Failure Value)
  | drop (id : String) (panicking : Bool)
  | setSwitch (on : Bool)
  | setTracing (on : Bool)

/-- **What a step answers.** -/
inductive Answer where
  | nothing
  /-- The summary of a closing operation, if it closed the span. -/
  | summary (summary : Option CallSummary)
  /-- The outcome of a call that was observed. -/
  | completed (outcome : Except Failure Value)
  /-- An observation was given up. -/
  | cancelled

/-- What a step leads to. -/
structure Stepped where
  session : Session
  answer : Answer
  reports : List Report

/-- Hold a span that has just been opened. -/
def hold (session : Session) (id : String) (opened : Span.Recorded) (now : Moment) : Stepped :=
  let handle := SpanHandle.ofBackend session.backends.spans session.tracing
  let held : HeldSpan := ⟨opened.span, handle, session.started⟩
  let kept := held.after opened.span opened.signals
  let dropped := match session.find? id with
    | some old => session.dropReports old false now
    | none => []
  ⟨{ session with
      started := if handle.live then session.started + 1 else session.started
      held := insertHeld id kept session.held },
    .nothing, session.reportsOf held opened.signals ++ dropped⟩

/-- Keep what an operation made of a held span. -/
def keep (session : Session) (id : String) (held : HeldSpan) : Session :=
  { session with held := insertHeld id held session.held }

/-- What an operation answers: the setters nothing, the others what they
closed. -/
def answerOf : SpanOp → Option CallSummary → Answer
  | .set _, _ => .nothing
  | _, summary => .summary summary

/-- An operation on a held span. -/
def applyTo (session : Session) (id : String) (held : HeldSpan) (op : SpanOp) (now : Moment) :
    Stepped :=
  let (kept, done) := held.step session.switch now op
  ⟨session.keep id kept, answerOf op done.summary, session.reportsOf held done.signals⟩

/-- The observation of a call by a held span. -/
def observeWith (session : Session) (id : String) (held : HeldSpan) (polls : Nat)
    (call : PendingCall Failure Value) (now : Moment) : Stepped :=
  let observation := held.span.observe (fun failure => failure) call
  match observation.run false now (List.replicate polls now) with
  | .completed span outcome signals =>
    ⟨session.keep id (held.after span signals), .completed outcome,
      session.reportsOf held signals⟩
  | .cancelled signals =>
    ⟨{ session with held := eraseHeld id session.held }, .cancelled,
      session.reportsOf held signals⟩

/-- A step on a span that is held, or nothing if none is. -/
def onHeld (session : Session) (id : String) (act : HeldSpan → Stepped) : Stepped :=
  match session.find? id with
  | some held => act held
  | none => ⟨session, .nothing, []⟩

/-- **One step of a session.** -/
def step (session : Session) (now : Moment) : Step → Stepped
  | .start id model provider operation =>
    session.hold id (session.instrumentor.start model provider operation now) now
  | .startAt id model url =>
    session.hold id (session.instrumentor.startAt model url now) now
  | .apply id op => session.onHeld id fun held => session.applyTo id held op now
  | .observe id polls call =>
    session.onHeld id fun held => session.observeWith id held polls call now
  | .drop id panicking => session.onHeld id fun held =>
    ⟨{ session with held := eraseHeld id session.held }, .nothing,
      session.dropReports held panicking now⟩
  | .setSwitch on => ⟨{ session with switch := on }, .nothing, []⟩
  | .setTracing on => ⟨{ session with tracing := on }, .nothing, []⟩

/-- **The end of a session**: the spans still held are dropped in the order
of their names. -/
def finish (session : Session) (now : Moment) : List Report :=
  session.held.flatMap fun entry => session.dropReports entry.2 false now

end Session
end CallScope
