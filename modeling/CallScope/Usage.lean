import CallScope.Decode.Record

/-!
# Token usage

A usage record says how many tokens a call took in, gave out, and was
billed for in total. The total is what the provider reported; it is only
computed for providers that report the two counts and nothing else.

Payloads are read leniently. A count that is missing, of another kind or
negative is zero, a fractional one loses its fraction, and one too large is
the largest there is. What matters more is *whether* there is usage:
`Usage.ofPayload?` takes an empty payload for none and anything else for
some, and `Usage.ofResponse?` falls back from the usage object to the bare
counts at the top of a response.
-/

namespace CallScope

open Json Decode

/-- **Token usage** of a call. -/
structure Usage where
  prompt : UInt64 := 0
  completion : UInt64 := 0
  total : UInt64 := 0
deriving DecidableEq

/-- The largest word. -/
def maxWord : UInt64 := UInt64.ofNat (2 ^ 64 - 1)

/-- A natural number as a word, the largest word standing for all beyond
it. -/
def saturateWord (n : Nat) : UInt64 := if n < 2 ^ 64 then UInt64.ofNat n else maxWord

namespace Usage

/-- A number read as a count. -/
def countOfNumber (n : Number) : UInt64 :=
  match n.toUInt64? with
  | some w => w
  | none =>
    let x := n.toDouble
    if x.isNegative && !x.isZero then 0 else saturateWord x.truncatedSize

/-- The count a payload has under a key. -/
def count (payload : Value) (key : String) : UInt64 :=
  match payload.get? key with
  | some (.number n) => countOfNumber n
  | _ => 0

/-- **Usage of a payload of two counts**; the total is their sum. -/
def ofCounts (payload : Value) : Usage :=
  let prompt := count payload "prompt_eval_count"
  let completion := count payload "eval_count"
  { prompt, completion, total := saturateWord (prompt.toNat + completion.toNat) }

/-- **Usage of a usage object.** `null` and an object without members say
nothing; any other value that is no object is taken for zero usage. -/
def ofPayload? (payload : Value) : Option Usage :=
  match payload with
  | .null => none
  | .object [] => none
  | .object _ => some {
      prompt := count payload "prompt_tokens"
      completion := count payload "completion_tokens"
      total := count payload "total_tokens" }
  | _ => some {}

/-- **Usage of a whole response**: that of its usage object, or else that
of the counts it has at the top. -/
def ofResponse? (response : Value) : Option Usage :=
  match (response.get? "usage").bind ofPayload? with
  | some usage => some usage
  | none =>
    if (response.get? "prompt_eval_count").isSome || (response.get? "eval_count").isSome then
      some (ofCounts response)
    else none

/-! ## As JSON -/

/-- A usage record as JSON. -/
def toValue (u : Usage) : Value := .object [
  ("prompt_tokens", .ofUInt64 u.prompt),
  ("completion_tokens", .ofUInt64 u.completion),
  ("total_tokens", .ofUInt64 u.total)]

/-- What is kept of a usage record while it is read. -/
structure Partial where
  prompt : Option UInt64 := none
  completion : Option UInt64 := none
  total : Option UInt64 := none

/-- The record of usage: every count may be left out. -/
def record : Record Partial Usage where
  name := "UsageRecord"
  slots := [
    slot "prompt_tokens" true (word "u64") (·.prompt) fun n p => { p with prompt := some n },
    slot "completion_tokens" true (word "u64") (·.completion)
      fun n p => { p with completion := some n },
    slot "total_tokens" true (word "u64") (·.total) fun n p => { p with total := some n }]
  blank := {}
  build := fun p => .ok {
    prompt := p.prompt.getD 0
    completion := p.completion.getD 0
    total := p.total.getD 0 }

/-- Reads a usage record. -/
def decode : Decoder Usage := record.decode

/-- A usage record in diagnostics. -/
def debugText (u : Usage) : String := Text.Quoted.record "UsageRecord" [
  ("prompt_tokens", toString u.prompt.toNat),
  ("completion_tokens", toString u.completion.toNat),
  ("total_tokens", toString u.total.toNat)] false

end Usage
end CallScope
