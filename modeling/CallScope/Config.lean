import CallScope.Decode.Record
import CallScope.Text.Blank

/-!
# Configuration

What may be configured: how much of a call is shown on its span, what the
metric instruments are called, and what the command line logs. Every
section and every field may be left out and has a default of its own.

`Config.check` is the one condition beyond the types: an instrument must
have a name that is not blank. It is asked of a configuration that is
loaded from a file, not of one that is put together otherwise.
-/

namespace CallScope

open Json Decode

/-- **How much of a call is shown.** -/
structure Limits where
  /-- Characters kept of the last user message. -/
  inputChars : UInt64 := 1000
  /-- Characters kept of the response text. -/
  outputChars : UInt64 := 1000
  /-- Characters kept of each tool call's arguments. -/
  toolArgumentChars : UInt64 := 500
  /-- Tool calls recorded one by one. -/
  indexedToolCalls : UInt64 := 5
deriving DecidableEq

/-- **What the instruments are called.** -/
structure MetricNames where
  requests : String := "llm.requests.total"
  tokens : String := "llm.tokens.total"
  duration : String := "llm.request.duration"
deriving DecidableEq

/-- **What the command line logs.** -/
structure Logging where
  /-- Which events and spans are let through. -/
  filter : String := "info"
  /-- Whether log lines are coloured. -/
  ansi : Bool := true
deriving DecidableEq

/-- **The configuration.** -/
structure Config where
  limits : Limits := {}
  metrics : MetricNames := {}
  logging : Logging := {}
deriving DecidableEq

/-! ## Limits -/

namespace Limits

/-- Limits as JSON. -/
def toValue (l : Limits) : Value := .object [
  ("input_chars", .ofUInt64 l.inputChars),
  ("output_chars", .ofUInt64 l.outputChars),
  ("tool_argument_chars", .ofUInt64 l.toolArgumentChars),
  ("indexed_tool_calls", .ofUInt64 l.indexedToolCalls)]

/-- What is kept of limits while they are read. -/
structure Partial where
  inputChars : Option UInt64 := none
  outputChars : Option UInt64 := none
  toolArgumentChars : Option UInt64 := none
  indexedToolCalls : Option UInt64 := none

/-- The limits that are given, the others having their defaults. -/
def Partial.complete (p : Partial) : Limits :=
  let base : Limits := {}
  { inputChars := p.inputChars.getD base.inputChars
    outputChars := p.outputChars.getD base.outputChars
    toolArgumentChars := p.toolArgumentChars.getD base.toolArgumentChars
    indexedToolCalls := p.indexedToolCalls.getD base.indexedToolCalls }

/-- The record of limits. -/
def record : Record Partial Limits where
  name := "LimitsCfg"
  slots := [
    slot "input_chars" true (word "usize") (·.inputChars)
      fun n p => { p with inputChars := some n },
    slot "output_chars" true (word "usize") (·.outputChars)
      fun n p => { p with outputChars := some n },
    slot "tool_argument_chars" true (word "usize") (·.toolArgumentChars)
      fun n p => { p with toolArgumentChars := some n },
    slot "indexed_tool_calls" true (word "usize") (·.indexedToolCalls)
      fun n p => { p with indexedToolCalls := some n }]
  blank := {}
  build := fun p => .ok p.complete

/-- Reads limits. -/
def decode : Decoder Limits := record.decode

end Limits

/-! ## Names of instruments -/

namespace MetricNames

/-- The names as JSON. -/
def toValue (m : MetricNames) : Value := .object [
  ("requests", .string m.requests),
  ("tokens", .string m.tokens),
  ("duration", .string m.duration)]

/-- What is kept of the names while they are read. -/
structure Partial where
  requests : Option String := none
  tokens : Option String := none
  duration : Option String := none

/-- The names that are given, the others having their defaults. -/
def Partial.complete (p : Partial) : MetricNames :=
  let base : MetricNames := {}
  { requests := p.requests.getD base.requests
    tokens := p.tokens.getD base.tokens
    duration := p.duration.getD base.duration }

/-- The record of names. -/
def record : Record Partial MetricNames where
  name := "MetricsCfg"
  slots := [
    slot "requests" true string (·.requests) fun s p => { p with requests := some s },
    slot "tokens" true string (·.tokens) fun s p => { p with tokens := some s },
    slot "duration" true string (·.duration) fun s p => { p with duration := some s }]
  blank := {}
  build := fun p => .ok p.complete

/-- Reads the names. -/
def decode : Decoder MetricNames := record.decode

/-- Whether every instrument has a name to be seen. -/
def allNamed (m : MetricNames) : Bool :=
  [m.requests, m.tokens, m.duration].all fun s => !Text.isBlank s

end MetricNames

/-! ## Logging -/

namespace Logging

/-- Logging as JSON. -/
def toValue (l : Logging) : Value := .object [
  ("filter", .string l.filter),
  ("ansi", .bool l.ansi)]

/-- What is kept of logging while it is read. -/
structure Partial where
  filter : Option String := none
  ansi : Option Bool := none

/-- What is given of logging, the rest having its defaults. -/
def Partial.complete (p : Partial) : Logging :=
  let base : Logging := {}
  { filter := p.filter.getD base.filter, ansi := p.ansi.getD base.ansi }

/-- The record of logging. -/
def record : Record Partial Logging where
  name := "LoggingCfg"
  slots := [
    slot "filter" true string (·.filter) fun s p => { p with filter := some s },
    slot "ansi" true bool (·.ansi) fun b p => { p with ansi := some b }]
  blank := {}
  build := fun p => .ok p.complete

/-- Reads logging. -/
def decode : Decoder Logging := record.decode

end Logging

/-! ## The whole -/

namespace Config

/-- The configuration as JSON. -/
def toValue (c : Config) : Value := .object [
  ("limits", c.limits.toValue),
  ("metrics", c.metrics.toValue),
  ("logging", c.logging.toValue)]

/-- What is kept of the configuration while it is read. -/
structure Partial where
  limits : Option Limits := none
  metrics : Option MetricNames := none
  logging : Option Logging := none

/-- The record of the configuration. -/
def record : Record Partial Config where
  name := "Config"
  slots := [
    slot "limits" true Limits.decode (·.limits) fun l p => { p with limits := some l },
    slot "metrics" true MetricNames.decode (·.metrics) fun m p => { p with metrics := some m },
    slot "logging" true Logging.decode (·.logging) fun l p => { p with logging := some l }]
  blank := {}
  build := fun p => .ok {
    limits := p.limits.getD {}
    metrics := p.metrics.getD {}
    logging := p.logging.getD {} }

/-- Reads the configuration. -/
def decode : Decoder Config := record.decode

end Config
end CallScope
