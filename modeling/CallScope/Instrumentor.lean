import CallScope.Provider
import CallScope.Span

/-!
# Opening spans

An instrumentor opens spans that are alike in limits and in the names of
the instruments. The instruments are described once, when it is set up.

Every span is identified by a model, a provider and an operation, none of
them blank: a blank model or provider is reported and replaced by
`unknown`, and an operation without a name is named for its provider.
-/

namespace CallScope

/-- **Opens spans** that are alike in limits and in the names of the
instruments. -/
structure Instrumentor where
  limits : Limits
  metrics : MetricNames
deriving DecidableEq

namespace Instrumentor

/-- The instrumentor of a configuration. -/
def ofConfig (config : Config) : Instrumentor := ⟨config.limits, config.metrics⟩

/-- What is sent out when an instrumentor is set up: the descriptions of
the instruments. -/
def setupSignals (inst : Instrumentor) : List Signal := inst.metrics.describe.map .metric

/-- What a blank identifier reads as. -/
def unknownName : String := "unknown"

/-- An identifier, and the warning if it was blank. -/
def identifier (field value : String) : String × List Signal :=
  if Text.isBlank value then
    (unknownName, [.log ⟨.warn, "empty identifier for LLM span; using \"unknown\"",
      [("field", field)]⟩])
  else (value, [])

/-- The name of an operation that was given none. -/
def defaultOperation (provider : String) : String := "llm." ++ provider ++ ".chat"

/-- The name of an operation; a blank one is none. -/
def operationName (provider : String) : Option String → String
  | some name => if Text.isBlank name then defaultOperation provider else name
  | none => defaultOperation provider

/-- The signals that open a handle: its start and the four attributes that
identify the call. -/
def identity (operation : String) (tags : MetricTags) : List Signal := [
  .handle (.start operation .client),
  .attribute .spanKind (.text "LLM"),
  .attribute .model (.text tags.model),
  .attribute .provider (.text tags.provider),
  .attribute .spanType (.text "llm")]

/-- **Open a span.** Blank identifiers are replaced, and an operation
without a name is named for the provider. -/
def start (inst : Instrumentor) (model provider : String) (operation : Option String)
    (now : Moment) : Span.Recorded :=
  let (model, modelSignals) := identifier "model" model
  let (provider, providerSignals) := identifier "provider" provider
  let operation := operationName provider operation
  let tags : MetricTags := ⟨model, provider⟩
  ⟨{ limits := inst.limits, metrics := inst.metrics, tags, operation, openedAt := now },
    modelSignals ++ providerSignals ++ identity operation tags⟩

/-- Open a span for an endpoint, which tells the provider. -/
def startAt (inst : Instrumentor) (model url : String) (now : Moment) : Span.Recorded :=
  inst.start model (Provider.ofUrl url).name none now

/-! ## Diagnostics -/

/-- What diagnostics show of the backends. -/
def backendsText : String := Text.Quoted.record "TelemetryContext" [] true

/-- An instrumentor in diagnostics. -/
def debugText (inst : Instrumentor) : String := Text.Quoted.record "Instrumentor" [
  ("ctx", backendsText),
  ("metrics", inst.metrics.debugText),
  ("limits", Text.Quoted.record "LimitsCfg" [
    ("input_chars", toString inst.limits.inputChars.toNat),
    ("output_chars", toString inst.limits.outputChars.toNat),
    ("tool_argument_chars", toString inst.limits.toolArgumentChars.toNat),
    ("indexed_tool_calls", toString inst.limits.indexedToolCalls.toNat)] false)] false

end Instrumentor
end CallScope
