import CallScope.Error
import CallScope.Instruments
import CallScope.Moment
import CallScope.Telemetry.Signal

/-!
# Spans

A span accompanies one call from the moment it is opened to the moment it
is closed. In between, setters record what becomes known of the call
(`Span.Setter`); on closing, the metrics are booked, the outcome is set,
and a summary goes back to the caller (`Span.Closing`).

A span is a value, and what it sends out is a list of signals, so that each
operation is a function from a span to a span and signals. The limits and
the names of the instruments are fixed when the span is opened, and so are
the identity of the call and its operation; only usage, tool names and
whether the span is open ever change.
-/

namespace CallScope

/-- **A span.** -/
structure Span where
  limits : Limits
  metrics : MetricNames
  tags : MetricTags
  operation : String
  openedAt : Moment
  /-- The usage recorded last. -/
  usage : Option Usage := none
  /-- The names of the tool calls recorded last. -/
  toolNames : List String := []
  isOpen : Bool := true
deriving DecidableEq

namespace Span

/-- The model that is called. -/
def model (span : Span) : String := span.tags.model

/-- The provider that serves it. -/
def provider (span : Span) : String := span.tags.provider

/-- **What a setter leads to**: the span afterwards, and what was sent
out. -/
structure Recorded where
  span : Span
  signals : List Signal
deriving DecidableEq

namespace Recorded

/-- More is recorded on the span. -/
def andThen (first : Recorded) (next : Span → Recorded) : Recorded :=
  let second := next first.span
  ⟨second.span, first.signals ++ second.signals⟩

end Recorded

/-- Nothing is recorded. -/
def unchanged (span : Span) : Recorded := ⟨span, []⟩

/-- Signals are sent and the span stays as it is. -/
def send (span : Span) (signals : List Signal) : Recorded := ⟨span, signals⟩

/-- **What becomes of an error in a setter**: a warning. -/
def warning (span : Span) (setter : String) (error : Error) : Signal :=
  .log ⟨.warn, "failed to record LLM span attribute", [
    ("operation", span.operation), ("setter", setter), ("error", error.message)]⟩

/-- A span in diagnostics. -/
def debugText (span : Span) : String := Text.Quoted.record "LlmSpan" [
  ("operation_name", Text.Quoted.quote span.operation),
  ("model", Text.Quoted.quote span.model),
  ("provider", Text.Quoted.quote span.provider),
  ("state", if span.isOpen then "Open" else "Closed"),
  ("usage", match span.usage with
    | none => "None"
    | some usage => "Some(" ++ usage.debugText ++ ")")] true

end Span
end CallScope
