import CallScope.Decode.Record
import CallScope.Provider
import CallScope.Span.Closing

/-!
# Recorded exchanges

An exchange is a call that took place: who was called, with what, and what
came back. It is replayed by doing to a span what was done around the call
– in two parts, since the call itself lies between them: recording the
request, and recording the response and closing.

A response is read wherever its provider puts the message: below the first
of its choices, below `message`, or at the top.
-/

namespace CallScope

open Json Decode

/-- **A recorded exchange.** -/
structure Exchange where
  model : String
  provider : Option String
  endpoint : Option String
  operation : Option String
  messages : Value
  parameters : Value
  response : Value
  /-- The message of a call that failed. -/
  error : Option String
  /-- How many milliseconds the call took. -/
  delay : UInt64

namespace Exchange

/-! ## Reading -/

/-- What is kept of an exchange while it is read. -/
structure Partial where
  model : Option String := none
  provider : Option (Option String) := none
  endpoint : Option (Option String) := none
  operation : Option (Option String) := none
  messages : Option Value := none
  parameters : Option Value := none
  response : Option Value := none
  error : Option (Option String) := none
  delay : Option UInt64 := none

/-- The record of an exchange: all but the model may be left out. -/
def record : Record Partial Exchange where
  name := "Exchange"
  slots := [
    slot "model" false string (·.model) fun s p => { p with model := some s },
    slot "provider" true (option string) (·.provider) fun s p => { p with provider := some s },
    slot "endpoint" true (option string) (·.endpoint) fun s p => { p with endpoint := some s },
    slot "operation" true (option string) (·.operation)
      fun s p => { p with operation := some s },
    slot "messages" true any (·.messages) fun v p => { p with messages := some v },
    slot "parameters" true any (·.parameters) fun v p => { p with parameters := some v },
    slot "response" true any (·.response) fun v p => { p with response := some v },
    slot "error" true (option string) (·.error) fun s p => { p with error := some s },
    slot "delay_ms" true (word "u64") (·.delay) fun n p => { p with delay := some n }]
  blank := {}
  build := fun p => (required "model" p.model).map fun model => {
    model
    provider := p.provider.getD none
    endpoint := p.endpoint.getD none
    operation := p.operation.getD none
    messages := p.messages.getD .null
    parameters := p.parameters.getD .null
    response := p.response.getD .null
    error := p.error.getD none
    delay := p.delay.getD 0 }

/-- Reads an exchange. -/
def decode : Decoder Exchange := record.decode

/-! ## Who was called -/

/-- **The provider**: the one that is named, or else the one that serves the
endpoint. -/
def providerName (e : Exchange) : String :=
  match e.provider, e.endpoint with
  | some provider, _ => provider
  | none, some url => (Provider.ofUrl url).name
  | none, none => Provider.openAi.name

/-! ## What came back -/

/-- The message of the first choice. Choices are counted, or keyed by
number. -/
def choiceMessage? (response : Value) : Option Value := do
  let choices ← response.get? "choices"
  let first ← (choices.item? 0).or (choices.get? "0")
  first.get? "message"

/-- **The message of a response.** -/
def messageOf (response : Value) : Value :=
  ((choiceMessage? response).or (response.get? "message")).getD response

/-- The outcome of the call. -/
def outcome (e : Exchange) : Except Failure Unit :=
  match e.error with
  | some message => .error (.ofChain message [])
  | none => .ok ()

/-- What is set on a span before the call. -/
def requestSetters (e : Exchange) : List Setter := [
  .inputPayload e.messages,
  .parameters e.parameters]

/-- What is set on a span after the call; after a failure, nothing. -/
def responseSetters (e : Exchange) : List Setter :=
  match e.error with
  | some _ => []
  | none =>
    let message := messageOf e.response
    ((Usage.ofResponse? e.response).map Setter.usage).toList ++
      [.outputPayload ((message.get? "content").bind Value.string?) (message.get? "tool_calls")]

end Exchange
end CallScope
