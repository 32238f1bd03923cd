import CallScope.Message
import CallScope.Parameter
import CallScope.Span
import CallScope.Text.Excerpt
import CallScope.ToolCall.Normal

/-!
# Setters

Setters record what becomes known of a call. Each has a form for decoded
values and one for payloads as they came, and two rules hold for all.

* **Setters never fail.** A payload of the wrong shape is logged and
  nothing of it is recorded.
* **Setters act on active spans only**, those that are open and whose
  handle records at that moment (`Span.whenActive`). Most setters ask for
  that first; a usage payload is read before, and a list of calls is seen to
  be empty before (`Span.setUsagePayload`, `Span.setToolCalls`).

Explicit tool calls win over those inside a response text. The text is only
searched if the caller supplied none, and a supplied value that turns out to
hold no usable call still counts as supplied.
-/

namespace CallScope

open Json Decode

namespace Span

/-! ## Usage -/

/-- Record usage: it is kept for the token metric and shown in three
attributes. -/
def recordUsage (span : Span) (usage : Usage) : Recorded := ⟨{ span with usage := some usage }, [
  .attribute .promptTokens (.ofWord usage.prompt),
  .attribute .completionTokens (.ofWord usage.completion),
  .attribute .totalTokens (.ofWord usage.total)]⟩

/-! ## Input -/

/-- Show a message as the input. A message without content is shown
empty. -/
def recordMessage (span : Span) (message : Message) : Recorded := span.send [
  .attribute .inputMessage
    (.text (Text.excerpt span.limits.inputChars.toNat message.toText))]

/-- Record the last message of the user. -/
def recordInput (span : Span) (messages : List Message) : Recorded :=
  match messages.reverse.find? fun m => m.role == .user with
  | some message => span.recordMessage message
  | none => span.unchanged

/-- Whether an entry of a message list claims to be of the user. -/
def isFromUser (entry : Value) : Bool :=
  (entry.get? "role").bind Value.string? == some Role.user.name

/-- Record the last message of the user in a list that is not decoded.
Only that message has to be one. -/
def recordInputPayload (span : Span) : Value → Recorded
  | .null => span.unchanged
  | .array entries =>
    match entries.reverse.find? isFromUser with
    | none => span.unchanged
    | some entry =>
      match Message.decode.ofValue entry with
      | .ok message => span.recordMessage message
      | .error fault => span.send [span.warning "set_input" (.decode fault)]
  | _ => span.send [span.warning "set_input" .messagesNoList]

/-! ## Tool calls -/

/-- The attributes of a call under its position: its name, and its
arguments if it has any. -/
def callAttributes (limits : Limits) (index : Nat) (call : CanonicalCall) : List Signal :=
  .attribute (.toolCallName index) (.text call.name) ::
    (call.arguments.map fun arguments =>
      .attribute (.toolCallArguments index)
        (.text (Text.excerpt limits.toolArgumentChars.toNat arguments))).toList

/-- The attributes of the calls whose positions are within the limit. -/
def indexedAttributes (limits : Limits) (calls : List (Nat × CanonicalCall)) : List Signal :=
  calls.flatMap fun entry =>
    if entry.1 < limits.indexedToolCalls.toNat then callAttributes limits entry.1 entry.2 else []

/-- **Record tool calls with their positions**: the first ones one by one,
and of all of them the number and the names. A list without calls leaves
what was recorded before. -/
def recordCalls (span : Span) (calls : List (Nat × OpenAiCall)) : Recorded :=
  if calls.isEmpty then span.unchanged
  else
    let canonical := calls.map fun entry => (entry.1, entry.2.canonical)
    let names := canonical.map fun entry => entry.2.name
    ⟨{ span with toolNames := names }, indexedAttributes span.limits canonical ++ [
      .attribute .toolCallCount (.ofCount names.length),
      .attribute .toolCallNames (.text (String.intercalate "," names))]⟩

/-- Calls under their positions in a list of nothing but calls. -/
def enumerate (calls : List OpenAiCall) : List (Nat × OpenAiCall) :=
  (List.range calls.length).zip calls

/-- Record the calls of a list that is not decoded. -/
def recordCallsPayload (span : Span) : Value → Recorded
  | .null => span.unchanged
  | payload =>
    match AnyCall.readIndexed payload with
    | .ok calls => span.recordCalls calls
    | .error error => span.send [span.warning "set_tool_calls" error]

/-! ## Output -/

/-- Show the response text, unless it is empty. -/
def recordContent (span : Span) : Option String → Recorded
  | some content =>
    if content.isEmpty then span.unchanged
    else span.send [
      .attribute .outputMessage (.text (Text.excerpt span.limits.outputChars.toNat content))]
  | none => span.unchanged

/-- Record the calls inside the response text, all of which is searched,
whatever is shown of it. -/
def recordEmbedded (span : Span) (content : Option String) : Recorded :=
  match content.bind embeddedCalls? with
  | some calls => span.recordCalls (enumerate calls)
  | none => span.unchanged

/-- **Record a response**: its text and the calls that the caller supplied
with it, or those inside the text if none were supplied. -/
def recordResponse (span : Span) (content : Option String)
    (supplied : Option (List (Nat × OpenAiCall))) : Recorded :=
  (span.recordContent content).andThen fun span =>
    match supplied with
    | some calls => span.recordCalls calls
    | none => span.recordEmbedded content

/-- Record a response with a list of calls; an empty one supplies none. -/
def recordOutput (span : Span) (content : Option String) (calls : Option (List OpenAiCall)) :
    Recorded :=
  span.recordResponse content ((calls.filter fun calls => !calls.isEmpty).map enumerate)

/-- Record a response with calls that are not decoded. -/
def recordOutputPayload (span : Span) (content : Option String) (calls : Option Value) : Recorded :=
  match calls.filter Value.truthy with
  | none => span.recordResponse content none
  | some payload =>
    match AnyCall.readIndexed payload with
    | .ok calls => span.recordResponse content (some calls)
    | .error error =>
      (span.send [span.warning "set_output" error]).andThen fun span =>
        span.recordResponse content (some [])

/-! ## Request parameters -/

/-- How warnings call the setting of parameters. -/
def parameterSetter : String := "set_invocation_parameters"

/-- The signal of one parameter of a request, if the request has it. -/
def parameterSignal (span : Span) (request : Value) (p : Parameter) : Option Signal :=
  (request.get? p.name).map fun raw =>
    match p.coerce raw with
    | .ok value => .attribute p.key value
    | .error error => span.warning parameterSetter error

/-- Record the parameters of a request, each for itself. -/
def recordParameters (span : Span) : Value → Recorded
  | .null => span.unchanged
  | .object members =>
    span.send (Parameter.all.filterMap (span.parameterSignal (.object members)))
  | _ => span.send [span.warning parameterSetter .parametersNoObject]

end Span

/-! ## Setters -/

/-- **The setters of a span**, each in a form for decoded values and one
for payloads as they came. -/
inductive Setter where
  | usage (usage : Usage)
  | usagePayload (payload : Value)
  | input (messages : List Message)
  | inputPayload (messages : Value)
  | output (content : Option String) (calls : Option (List OpenAiCall))
  | outputPayload (content : Option String) (calls : Option Value)
  | toolCalls (calls : List OpenAiCall)
  | toolCallsPayload (calls : Value)
  | parameters (request : Value)

namespace Span

/-- **What is recorded of an active span**; of any other nothing is. -/
def whenActive (span : Span) (recording : Bool) (recorded : Recorded) : Recorded :=
  if span.isOpen && recording then recorded else span.unchanged

/-- Set usage. -/
def setUsage (span : Span) (recording : Bool) (usage : Usage) : Recorded :=
  span.whenActive recording (span.recordUsage usage)

/-- Set the usage of a payload, if it says anything. The payload is read
whether or not the span is active. -/
def setUsagePayload (span : Span) (recording : Bool) (payload : Value) : Recorded :=
  match Usage.ofPayload? payload with
  | some usage => span.setUsage recording usage
  | none => span.unchanged

/-- Set tool calls, if there are any. -/
def setToolCalls (span : Span) (recording : Bool) (calls : List OpenAiCall) : Recorded :=
  if calls.isEmpty then span.unchanged
  else span.whenActive recording (span.recordCalls (enumerate calls))

/-- **Set something on a span** whose handle does or does not record. -/
def set (span : Span) (recording : Bool) : Setter → Recorded
  | .usage usage => span.setUsage recording usage
  | .usagePayload payload => span.setUsagePayload recording payload
  | .input messages => span.whenActive recording (span.recordInput messages)
  | .inputPayload messages => span.whenActive recording (span.recordInputPayload messages)
  | .output content calls => span.whenActive recording (span.recordOutput content calls)
  | .outputPayload content calls =>
    span.whenActive recording (span.recordOutputPayload content calls)
  | .toolCalls calls => span.setToolCalls recording calls
  | .toolCallsPayload calls => span.whenActive recording (span.recordCallsPayload calls)
  | .parameters request => span.whenActive recording (span.recordParameters request)

end Span
end CallScope
