import CallScope.Attribute
import CallScope.Decode.Record

/-!
# Signals

What instrumentation sends out, in the order it is sent. A `Signal` goes
one of three ways: to the handle of a span, to the metric instruments, or
to the log. A run of a span is judged by its signals alone; what a backend
makes of them is told in `SpanBackend` and `MetricsBackend`.
-/

namespace CallScope

open Json Decode

/-! ## Kinds and statuses -/

/-- The side of a call a span stands for. -/
inductive SpanKind where
  | client
  | internal
deriving DecidableEq

namespace SpanKind

/-- The name of a kind. -/
def name : SpanKind → String
  | .client => "client"
  | .internal => "internal"

/-- The kind with a name. -/
def ofName? (name : String) : Option SpanKind :=
  [SpanKind.client, .internal].find? fun k => k.name == name

/-- A kind as JSON. -/
def toValue (k : SpanKind) : Value := .string k.name

/-- Reads the name of a kind. -/
def decode : Decoder SpanKind := enumeration ["client", "internal"] ofName?

end SpanKind

/-- **How a call ended.** -/
inductive SpanStatus where
  | ok
  | error (message : String)
deriving DecidableEq

namespace SpanStatus

/-- Whether the call failed. -/
def isError : SpanStatus → Bool
  | .ok => false
  | .error _ => true

/-- The code of an outcome. -/
def codeOf (failed : Bool) : String := if failed then "ERROR" else "OK"

/-- The code of a status. -/
def code (s : SpanStatus) : String := codeOf s.isError

/-- A status as JSON: its code, and its message beside it. -/
def toValue (s : SpanStatus) : Value :=
  .object (("code", .string s.code) :: match s with
    | .ok => []
    | .error message => [("message", .string message)])

/-- The codes, success first. -/
def codes : List String := [codeOf false, codeOf true]

/-- Whether the outcome with a code is a failure. -/
def failed? (code : String) : Option Bool :=
  [false, true].find? fun failed => codeOf failed == code

/-- Reads a code, as whether it says failure. -/
def decodeCode : Decoder Bool := enumeration codes failed?

/-- Reads the message that goes with a code: a success admits none. -/
def decodeMessage (failed : Bool) : Decoder SpanStatus
  | mode, d =>
    if failed then (Decode.string mode d).map .error
    else match d with
      | .null => .ok .ok
      | d => reject "unit variant SpanStatus::Ok" d

/-- What is known of a status while its members are read. -/
inductive Partial where
  | nothing
  | code (failed : Bool)
  /-- A message that came before its code. -/
  | message (draft : Draft)
  | whole (status : SpanStatus)

/-- The members of a status in their order, each to come once. -/
def decodeMembers (mode : Mode) (ending : Ending) :
    List (Option String × Draft) → Partial → Except Fault Partial
  | [], known => flawed (ending.read.map fun _ => known)
  | (none, _) :: _, _ => .error (.flaw .malformed)
  | (some key, value) :: rest, known =>
    let step : Except Fault Partial :=
      if key = "code" then
        match known with
        | .nothing => (decodeCode mode value).map .code
        | .message draft =>
          match decodeCode mode value with
          | .error fault => .error fault
          | .ok failed => (decodeMessage failed .settled draft).map .whole
        | _ => mismatch (.duplicateField "code")
      else if key = "message" then
        match known with
        | .nothing => flawed ((value.value mode.room).map fun _ => .message value)
        | .code failed => (decodeMessage failed mode value).map .whole
        | _ => mismatch (.duplicateField "message")
      else flawed (value.skip.map fun _ => known)
    match step with
    | .error fault => .error fault
    | .ok known => decodeMembers mode ending rest known

/-- The status that the members of an object amount to. -/
def Partial.complete : Partial → Except Fault SpanStatus
  | .nothing => mismatch (.missingField "code")
  | .message _ => mismatch (.missingField "code")
  | .code false => .ok .ok
  | .code true => mismatch (.missingField "message")
  | .whole status => .ok status

/-- How messages name a status. -/
def formName : String := "adjacently tagged enum SpanStatus"

/-- **Reads a status**: its code and its message as members of an object, in
either order, or as the two items of an array, whose code is a plain
name. -/
def decode : Decoder SpanStatus
  | mode, .object members ending =>
    match mode.enter with
    | .error fault => .error fault
    | .ok inner =>
      match decodeMembers inner ending members .nothing with
      | .error fault => .error fault
      | .ok known => known.complete
  | mode, .array items ending =>
    match mode.enter with
    | .error fault => .error fault
    | .ok inner =>
      match items with
      | [] => (flawed ending.read).bind fun _ => mismatch (.wrongLength 0 formName)
      | code :: rest =>
        match identifier codes failed? inner code with
        | .error fault => .error fault
        | .ok failed =>
          match rest with
          | [] => (flawed ending.read).bind fun _ => mismatch (.wrongLength 1 formName)
          | message :: rest =>
            match decodeMessage failed inner message with
            | .error fault => .error fault
            | .ok status =>
              (Record.surplus items.length inner rest ending).map fun _ => status
  | _, d => reject formName d

end SpanStatus

/-! ## Metrics -/

/-- **What every metric sample is tagged with.** -/
structure MetricTags where
  model : String
  provider : String
deriving DecidableEq

namespace MetricTags

/-- The tags with their names, in fixed order. -/
def pairs (t : MetricTags) : List (String × String) :=
  [("model", t.model), ("provider", t.provider)]

/-- The tags as JSON. -/
def toValue (t : MetricTags) : Value :=
  .object (t.pairs.map fun p => (p.1, .string p.2))

/-- What is kept of tags while they are read. -/
structure Partial where
  model : Option String := none
  provider : Option String := none

/-- The record of tags. -/
def record : Record Partial MetricTags where
  name := "MetricTags"
  slots := [
    slot "model" false string (·.model) fun s p => { p with model := some s },
    slot "provider" false string (·.provider) fun s p => { p with provider := some s }]
  blank := {}
  build := fun p =>
    match required "model" p.model with
    | .error fault => .error fault
    | .ok model => (required "provider" p.provider).map fun provider => ⟨model, provider⟩

/-- Reads tags. -/
def decode : Decoder MetricTags := record.decode

end MetricTags

/-- The kind of an instrument. -/
inductive InstrumentKind where
  | counter
  | histogram
deriving DecidableEq

/-- **What the metric instruments are told.** -/
inductive Sample where
  /-- What an instrument measures, and in which unit. -/
  | describe (name : String) (kind : InstrumentKind) (unit description : String)
  /-- An amount to add to a counter. -/
  | counter (name : String) (amount : UInt64) (tags : MetricTags)
  /-- A value for a histogram. -/
  | histogram (name : String) (value : Double) (tags : MetricTags)
deriving DecidableEq

/-! ## Span handles and logs -/

/-- **What the handle of a span is told.** -/
inductive HandleCall where
  | start (name : String) (kind : SpanKind)
  | setAttribute (key : AttrKey) (value : AttrValue)
  | setStatus (status : SpanStatus)
  | recordError (detail : String)
  | finish
deriving DecidableEq

/-- How grave a log record is. -/
inductive LogLevel where
  | warn
  | error
deriving DecidableEq

/-- **A log record**: a message and the fields that go with it. -/
structure LogRecord where
  level : LogLevel
  message : String
  fields : List (String × String)
deriving DecidableEq

/-- **Anything that is sent out.** -/
inductive Signal where
  | handle (call : HandleCall)
  | metric (sample : Sample)
  | log (record : LogRecord)
deriving DecidableEq

/-- An attribute that is set. -/
def Signal.attribute (key : AttrKey) (value : AttrValue) : Signal :=
  .handle (.setAttribute key value)

end CallScope
