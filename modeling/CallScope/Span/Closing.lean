import CallScope.Failure
import CallScope.Span.Setter
import CallScope.Summary

/-!
# Closing spans

A span is closed once. Whatever comes first – closing, a failure, or being
dropped – books the metrics, sets the outcome and ends the handle, in this
order; after that the span is inert (`Span.conclude`).

`SpanOp` lists what may be done with a span while someone holds it, and
`Span.step` does it. What a handle answers when it is asked whether it
records, and what the time is, are inputs of a step, since neither is for
the span to decide.
-/

namespace CallScope

namespace Span

/-- **What an operation that may close a span leads to**: also the summary,
if it did. -/
structure Closed where
  span : Span
  summary : Option CallSummary
  signals : List Signal
deriving DecidableEq

/-- The status that an outcome amounts to. -/
def statusOf : Option Failure → SpanStatus
  | none => .ok
  | some failure => .error failure.message

/-- The log record of a failed call. -/
def failureLog (span : Span) (failure : Failure) : LogRecord :=
  ⟨.error, "LLM span failed", [
    ("operation", span.operation), ("model", span.model), ("provider", span.provider),
    ("error", failure.message), ("detail", failure.detail)]⟩

/-- The signals of an outcome: a failure is logged, and its detail is
recorded behind the status. -/
def outcomeSignals (span : Span) : Option Failure → List Signal
  | none => [.handle (.setStatus .ok)]
  | some failure => [
      .log (span.failureLog failure),
      .handle (.setStatus (.error failure.message)),
      .handle (.recordError failure.detail)]

/-- The samples of a span that is closed at a moment. -/
def samples (span : Span) (now : Moment) : List Sample :=
  span.metrics.bookCall span.tags (span.openedAt.millisUntil now) span.usage

/-- What a span that is closed at a moment reports back. -/
def summarize (span : Span) (failure : Option Failure) (now : Moment) : CallSummary where
  operation := span.operation
  model := span.model
  provider := span.provider
  startedAt := span.openedAt.millis
  endedAt := (span.openedAt.latest now).millis
  duration := span.openedAt.millisUntil now
  usage := span.usage
  status := statusOf failure
  toolCalls := span.toolNames

/-- **Close a span**: the metrics, the outcome, and the end of the handle,
in this order. A span that is closed already stays as it is. -/
def conclude (span : Span) (failure : Option Failure) (now : Moment) : Closed :=
  if span.isOpen then
    ⟨{ span with isOpen := false }, some (span.summarize failure now),
      (span.samples now).map .metric ++ span.outcomeSignals failure ++ [.handle .finish]⟩
  else
    ⟨span, none, []⟩

/-- Drop a span. One that is still open has been cancelled, or a panic is
unwinding. -/
def drop (span : Span) (panicking : Bool) (now : Moment) : Closed :=
  span.conclude (some (if panicking then .panicked else .cancelled)) now

end Span

/-! ## Operations -/

/-- **What may be done with a span** between opening and dropping it. -/
inductive SpanOp where
  | set (setter : Setter)
  /-- Close it as a success. -/
  | close
  /-- Close it as a failure. -/
  | fail (failure : Failure)
  /-- Close it with the outcome of the call. -/
  | finish (outcome : Except Failure Unit)
  /-- Await the call: a failure closes the span, a success leaves it
  open. -/
  | observe (outcome : Except Failure Unit)

namespace Span

/-- The failure that an outcome is, if it is one. -/
def failureOf {α : Type} : Except Failure α → Option Failure
  | .ok _ => none
  | .error failure => some failure

/-- **Do something with a span.** `recording` is what its handle answers at
that moment. -/
def step (span : Span) (recording : Bool) (now : Moment) : SpanOp → Closed
  | .set setter =>
    let done := span.set recording setter
    ⟨done.span, none, done.signals⟩
  | .close => span.conclude none now
  | .fail failure => span.conclude (some failure) now
  | .finish outcome => span.conclude (failureOf outcome) now
  | .observe (.ok ()) => ⟨span, none, []⟩
  | .observe (.error failure) => span.conclude (some failure) now

end Span

end CallScope
