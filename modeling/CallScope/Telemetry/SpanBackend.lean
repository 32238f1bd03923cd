import CallScope.Telemetry.Signal

/-!
# Backends for spans

A backend gives out a handle for every span that is started and turns what
the handle is told into **reports** of its own. Four kinds of backend
differ in two respects: what a handle answers when it is asked whether it
records, and what it reports.

* The *recorder* reports every call as it is, and a switch says whether it
  records. The *steady recorder* does the same without the switch and
  always records.
* The *tracer* opens a trace span whose fields are all declared beforehand
  (`Tracer.declares`). An attribute becomes a record of the field of its
  name; under a name that is not declared it is recorded with no field. If
  tracing is off when a span is started, its handle is dead: it reports
  nothing and does not record. The end of the handle lets go of the trace
  span, and then the handle is dead as well (`SpanHandle.after`).
* The *discarding* backend reports nothing and never records.
-/

namespace CallScope

/-- **The backends for spans.** -/
inductive SpanBackend where
  | recorder
  | steadyRecorder
  | tracer
  | discard
deriving DecidableEq

/-! ## Trace fields -/

namespace Tracer

/-- The name every trace span has. -/
def spanName : String := "llm_call"

/-- What trace spans belong to. -/
def target : String := "llmspan"

/-- The field for the name of an operation. -/
def nameField : String := "otel.name"

/-- The field for the kind of a span. -/
def kindField : String := "otel.kind"

/-- The field for the code of a status. -/
def statusField : String := "otel.status_code"

/-- The field for the message of a status. -/
def statusMessageField : String := "otel.status_message"

/-- The field for the detail of an error. -/
def errorField : String := "exception.message"

/-- **The declared fields**, in order. They are spelled out, since a trace
span takes no field that is put together later; those of tool calls go up
to the fifth one. -/
def declaredFields : List String := [
  nameField, kindField, statusField, statusMessageField,
  "openinference.span.kind",
  "llm.model_name",
  "llm.provider",
  "span_type",
  "llm.token_count.prompt",
  "llm.token_count.completion",
  "llm.token_count.total",
  "llm.input.message",
  "llm.output.message",
  "llm.tool_calls.0.name",
  "llm.tool_calls.0.arguments",
  "llm.tool_calls.1.name",
  "llm.tool_calls.1.arguments",
  "llm.tool_calls.2.name",
  "llm.tool_calls.2.arguments",
  "llm.tool_calls.3.name",
  "llm.tool_calls.3.arguments",
  "llm.tool_calls.4.name",
  "llm.tool_calls.4.arguments",
  "llm.tool_calls.count",
  "llm.tool_calls.names",
  "llm.temperature",
  "llm.max_tokens",
  "llm.top_p",
  "llm.top_k",
  "llm.stream",
  errorField]

/-- Whether a field is declared. -/
def declares (field : String) : Bool := declaredFields.contains field

/-- The fields that a record of one value sets: it alone, if it is
declared. -/
def fieldsOf (field : String) (value : AttrValue) : List (String × AttrValue) :=
  if declares field then [(field, value)] else []

end Tracer

/-! ## Handles -/

/-- **The handle of a started span.** -/
structure SpanHandle where
  backend : SpanBackend
  /-- Whether anything that the handle is told is reported; for a trace
  span, whether there is one that has not ended. -/
  live : Bool
deriving DecidableEq

/-- **What a handle reports.** -/
inductive SpanReport where
  /-- The call itself. -/
  | call (call : HandleCall)
  /-- A trace span with the fields it starts with. -/
  | traceOpened (fields : List (String × AttrValue))
  /-- Fields that were recorded together. -/
  | traceRecorded (fields : List (String × AttrValue))
  | traceClosed
deriving DecidableEq

namespace SpanHandle

/-- The handle of a span that is started; `tracing` says whether trace
spans are let through. -/
def ofBackend (backend : SpanBackend) (tracing : Bool) : SpanHandle where
  backend := backend
  live := match backend with
    | .recorder | .steadyRecorder => true
    | .tracer => tracing
    | .discard => false

/-- **Whether a handle records**; `switch` is the recorder's switch. -/
def isRecording (handle : SpanHandle) (switch : Bool) : Bool :=
  match handle.backend with
  | .recorder => switch
  | .steadyRecorder => true
  | .tracer => handle.live
  | .discard => false

/-- What a live trace span reports of a call. -/
def trace : HandleCall → List SpanReport
  | .start name kind => [
      .traceOpened [(Tracer.nameField, .text name), (Tracer.kindField, .text kind.name)]]
  | .setAttribute key value => [.traceRecorded (Tracer.fieldsOf key.text value)]
  | .setStatus status =>
    .traceRecorded (Tracer.fieldsOf Tracer.statusField (.text status.code)) ::
      match status with
      | .ok => []
      | .error message =>
        [.traceRecorded (Tracer.fieldsOf Tracer.statusMessageField (.text message))]
  | .recordError detail => [.traceRecorded (Tracer.fieldsOf Tracer.errorField (.text detail))]
  | .finish => [.traceClosed]

/-- **What a handle reports of a call.** -/
def report (handle : SpanHandle) (call : HandleCall) : List SpanReport :=
  if handle.live then
    match handle.backend with
    | .recorder | .steadyRecorder => [.call call]
    | .tracer => trace call
    | .discard => []
  else []

/-- **A handle after a call.** A trace span is gone when it has ended. -/
def after (handle : SpanHandle) : HandleCall → SpanHandle
  | .finish =>
    match handle.backend with
    | .tracer => { handle with live := false }
    | _ => handle
  | _ => handle

/-- A handle after a signal; only calls are for it. -/
def afterSignal (handle : SpanHandle) : Signal → SpanHandle
  | .handle call => handle.after call
  | _ => handle

end SpanHandle
end CallScope
