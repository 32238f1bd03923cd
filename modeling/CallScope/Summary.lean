import CallScope.Moment
import CallScope.Telemetry.Signal
import CallScope.Usage

/-!
# Summaries of calls

What a span reports back when it is closed: who was called, when and for
how long, and what is known of tokens, outcome and tools. It is the one
place where the times of a call are kept; everything else about a span is
the same whenever it happens.
-/

namespace CallScope

open Json

/-- **What a closed span reports back.** -/
structure CallSummary where
  operation : String
  model : String
  provider : String
  /-- Milliseconds since the epoch. -/
  startedAt : UInt64
  /-- Milliseconds since the epoch. -/
  endedAt : UInt64
  /-- Milliseconds. -/
  duration : Double
  usage : Option Usage
  status : SpanStatus
  /-- The names of the tools that were called. -/
  toolCalls : List String
deriving DecidableEq

namespace CallSummary

/-- The members of a summary that do not tell of time. -/
def outcomeMembers (c : CallSummary) : List (String × Value) := [
  ("usage", .ofOption Usage.toValue c.usage),
  ("status", c.status.toValue),
  ("tool_calls", .array (c.toolCalls.map .string))]

/-- **A summary as JSON.** -/
def toValue (c : CallSummary) : Value := .object ([
  ("operation_name", .string c.operation),
  ("model", .string c.model),
  ("provider", .string c.provider),
  ("started_at_ms", .ofUInt64 c.startedAt),
  ("ended_at_ms", .ofUInt64 c.endedAt),
  ("duration_ms", .ofDouble c.duration)] ++ c.outcomeMembers)

end CallSummary
end CallScope
