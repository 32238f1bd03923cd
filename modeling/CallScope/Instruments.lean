import CallScope.Config
import CallScope.Telemetry.Signal
import CallScope.Text.Quoted
import CallScope.Usage

/-!
# Metric instruments

Three instruments count what happens to calls: how many there were, how
long each took, and how many tokens were billed. They are described once,
when they are set up, and every finished call is booked on all of them
together (`MetricNames.bookCall`), so that the request count and the number
of durations never differ.

The token counter is only told of totals that are positive: a sample of
zero tokens would say nothing that its absence does not.
-/

namespace CallScope

namespace MetricNames

/-- **What the instruments measure**, told once. -/
def describe (m : MetricNames) : List Sample := [
  .describe m.requests .counter "requests" "Total LLM API requests by provider and model",
  .describe m.tokens .counter "tokens" "Total tokens consumed by LLM API calls",
  .describe m.duration .histogram "ms" "LLM API request duration distribution"]

/-- The tokens of a call that reported a positive total. -/
def bookTokens (m : MetricNames) (tags : MetricTags) : Option Usage → List Sample
  | some usage => if 0 < usage.total then [.counter m.tokens usage.total tags] else []
  | none => []

/-- **The samples of a finished call**: one request, its duration in
milliseconds, and its tokens. -/
def bookCall (m : MetricNames) (tags : MetricTags) (duration : Double) (usage : Option Usage) :
    List Sample :=
  .counter m.requests 1 tags :: .histogram m.duration duration tags :: m.bookTokens tags usage

/-- The names in diagnostics. -/
def debugText (m : MetricNames) : String :=
  Text.Quoted.record "LlmMetrics" [("names", Text.Quoted.record "MetricsCfg" [
    ("requests", Text.Quoted.quote m.requests),
    ("tokens", Text.Quoted.quote m.tokens),
    ("duration", Text.Quoted.quote m.duration)] false)] true

end MetricNames
end CallScope
