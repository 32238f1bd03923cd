import CallScope.Decode.Decoder

/-!
# Span attributes

A span carries what is known of a call as attributes, each a key and a
value. The keys are a fixed family (`AttrKey`), two members of which are
indexed by the position of a tool call; `AttrKey.text` is the name a
backend sees. The values are truth values, signed 64-bit integers, doubles
and texts; counts enter as integers, the largest one standing for all
beyond it.
-/

namespace CallScope

open Json Decode

/-! ## Keys -/

/-- **The keys of a span's attributes.** -/
inductive AttrKey where
  | spanKind
  | model
  | provider
  | spanType
  | promptTokens
  | completionTokens
  | totalTokens
  | inputMessage
  | outputMessage
  | toolCallCount
  | toolCallNames
  | toolCallName (index : Nat)
  | toolCallArguments (index : Nat)
  | temperature
  | maxTokens
  | topP
  | topK
  | stream
deriving DecidableEq

namespace AttrKey

/-- **The name of a key** in a backend. -/
def text : AttrKey → String
  | .spanKind => "openinference.span.kind"
  | .model => "llm.model_name"
  | .provider => "llm.provider"
  | .spanType => "span_type"
  | .promptTokens => "llm.token_count.prompt"
  | .completionTokens => "llm.token_count.completion"
  | .totalTokens => "llm.token_count.total"
  | .inputMessage => "llm.input.message"
  | .outputMessage => "llm.output.message"
  | .toolCallCount => "llm.tool_calls.count"
  | .toolCallNames => "llm.tool_calls.names"
  | .toolCallName index => "llm.tool_calls." ++ toString index ++ ".name"
  | .toolCallArguments index => "llm.tool_calls." ++ toString index ++ ".arguments"
  | .temperature => "llm.temperature"
  | .maxTokens => "llm.max_tokens"
  | .topP => "llm.top_p"
  | .topK => "llm.top_k"
  | .stream => "llm.stream"

end AttrKey

/-! ## Values -/

/-- **The value of an attribute.** -/
inductive AttrValue where
  | bool (b : Bool)
  | int (n : Int64)
  | double (x : Double)
  | text (s : String)
deriving DecidableEq

/-- The largest signed word. -/
def maxSigned : Int64 := Int64.ofInt (2 ^ 63 - 1)

/-- The smallest signed word. -/
def minSigned : Int64 := Int64.ofInt (-(2 ^ 63))

/-- An integer as a signed word, the nearest one if it is out of range. -/
def saturateSigned (n : Int) : Int64 :=
  if n < -(2 ^ 63) then minSigned
  else if n < 2 ^ 63 then Int64.ofInt n
  else maxSigned

namespace AttrValue

/-- **A count as an attribute**, the largest signed word standing for all
counts beyond it. -/
def ofCount (n : Nat) : AttrValue := .int (saturateSigned n)

/-- An unsigned word as an attribute. -/
def ofWord (n : UInt64) : AttrValue := ofCount n.toNat

/-- A value as text for a reader. -/
def display : AttrValue → String
  | .bool b => if b then "true" else "false"
  | .int n => toString n.toInt
  | .double x => String.ofList x.plainText
  | .text s => s

/-- A value as JSON. -/
def toValue : AttrValue → Value
  | .bool b => .bool b
  | .int n => .ofInt64 n
  | .double x => .ofDouble x
  | .text s => .string s

/-- Reads an integer that is a signed word. -/
def decodeInt : Decoder AttrValue
  | _, .number (some (.integer n)) =>
    match n.toInt64? with
    | some w => .ok (.int w)
    | none => mismatch (.wrongValue (.integer n) "i64")
  | _, d => reject "i64" d

/-- Reads any number as a double. -/
def decodeDouble : Decoder AttrValue
  | _, .number (some n) => .ok (.double n.toDouble)
  | _, d => reject "f64" d

/-- Reads a value of whichever kind fits first; an integer beyond the
signed words becomes a double. -/
def decode : Decoder AttrValue :=
  untagged "AttrValue" [Decode.bool.map .bool, decodeInt, decodeDouble, Decode.string.map .text]

end AttrValue
end CallScope
