import CallScope.Attribute
import CallScope.Error
import CallScope.Text.Blank
import CallScope.Text.Numeral

/-!
# Request parameters

Five parameters of a request are shown on its span, each as a value of a
fixed type. Callers are loose about types, so numbers are also taken as
text and truth values as numbers; what cannot be brought to the type is an
error that names the parameter and shows the value.

Whether a value is a truth value is never in doubt: anything that says
something is true.
-/

namespace CallScope

open Json

/-- **The parameters shown on a span.** -/
inductive Parameter where
  | temperature
  | maxTokens
  | topP
  | topK
  | stream
deriving DecidableEq

namespace Parameter

/-- The parameters in the order they are recorded. -/
def all : List Parameter := [.temperature, .maxTokens, .topP, .topK, .stream]

/-- The name of a parameter in a request. -/
def name : Parameter → String
  | .temperature => "temperature"
  | .maxTokens => "max_tokens"
  | .topP => "top_p"
  | .topK => "top_k"
  | .stream => "stream"

/-- The attribute a parameter is recorded under. -/
def key : Parameter → AttrKey
  | .temperature => .temperature
  | .maxTokens => .maxTokens
  | .topP => .topP
  | .topK => .topK
  | .stream => .stream

/-! ## Values -/

/-- A value as a double: numbers, truth values, and numerals given as
text. -/
def double? : Value → Option Double
  | .number n => some n.toDouble
  | .bool b => some (.ofInt (if b then 1 else 0))
  | .string s => Text.Numeral.double? (Text.trim s.toList)
  | _ => none

/-- A number as a signed word: itself if it is one, or else without its
fraction and saturated. -/
def intOfNumber (n : Number) : Int64 :=
  match n.toInt64? with
  | some w => w
  | none => saturateSigned n.toDouble.truncate

/-- An integer as a signed word, if it is in range. -/
def signed? (n : Int) : Option Int64 :=
  if -(2 ^ 63) ≤ n ∧ n < 2 ^ 63 then some (Int64.ofInt n) else none

/-- A value as a signed word: numbers, truth values, and numerals given as
text that are in range. -/
def int? : Value → Option Int64
  | .number n => some (intOfNumber n)
  | .bool b => some (if b then 1 else 0)
  | .string s => (Text.Numeral.int? (Text.trim s.toList)).bind signed?
  | _ => none

/-- The value, or the error that says what it should have been. -/
def orFail (p : Parameter) (expected : String) (raw : Value) :
    Option AttrValue → Except Error AttrValue
  | some v => .ok v
  | none => .error (.coercion p.name expected raw.compact)

/-- **A parameter's value brought to its type.** -/
def coerce (p : Parameter) (raw : Value) : Except Error AttrValue :=
  match p with
  | .temperature | .topP => p.orFail "float" raw ((double? raw).map .double)
  | .maxTokens | .topK => p.orFail "int" raw ((int? raw).map .int)
  | .stream => .ok (.bool raw.truthy)

end Parameter
end CallScope
