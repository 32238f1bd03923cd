import CallScope.Telemetry.Signal

/-!
# Backends for metrics

A backend turns what the instruments are told into **reports** of its own.
The *recorder* reports every sample as it is. The *facade* passes samples
on to a recorder elsewhere and has its own names for units. The *log* writes
each sample as an event with fields and has no use for descriptions. The
*discarding* backend reports nothing.
-/

namespace CallScope

/-- **The backends for metrics.** -/
inductive MetricsBackend where
  | recorder
  | facade
  | log
  | discard
deriving DecidableEq

/-- The value of a field of an event. -/
inductive EventField where
  | text (s : String)
  | word (n : UInt64)
  | double (x : Double)
deriving DecidableEq

/-- **What a metrics backend reports.** -/
inductive MetricsReport where
  /-- The sample itself. -/
  | sample (sample : Sample)
  /-- The sample, passed on. -/
  | forwarded (sample : Sample)
  /-- An event with its fields. -/
  | event (fields : List (String × EventField))
deriving DecidableEq

namespace MetricsBackend

/-- The name of a unit behind the facade: milliseconds, or else plain
counts. -/
def facadeUnit (unit : String) : String := if unit = "ms" then "milliseconds" else "count"

/-- A sample with its unit named as behind the facade. -/
def forward : Sample → Sample
  | .describe name kind unit description => .describe name kind (facadeUnit unit) description
  | sample => sample

/-- The event of a sample: what it is, the instrument, the value, and the
tags. -/
def event (what name : String) (value : EventField) (tags : MetricTags) : MetricsReport :=
  .event ([("message", .text what), ("metric", .text name), ("value", value)]
    ++ tags.pairs.map fun tag => (tag.1, .text tag.2))

/-- What the log makes of a sample. -/
def log? : Sample → Option MetricsReport
  | .describe _ _ _ _ => none
  | .counter name amount tags => some (event "counter" name (.word amount) tags)
  | .histogram name value tags => some (event "histogram" name (.double value) tags)

/-- **What a backend reports of a sample.** -/
def report : MetricsBackend → Sample → List MetricsReport
  | .recorder, sample => [.sample sample]
  | .facade, sample => [.forwarded (forward sample)]
  | .log, sample => (log? sample).toList
  | .discard, _ => []

end MetricsBackend
end CallScope
