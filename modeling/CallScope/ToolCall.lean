import CallScope.Decode.Record

/-!
# Tool calls

A model asks for tools in one of two shapes. The **OpenAI** shape is an
object with an identifier, a type and a function, the function having a
name and arguments, usually as JSON text and sometimes as the value itself.
The **compact** shape is a name and its parameters; some models write it as
JSON into their text response.

What is recorded of a call is its **canonical** form: the name, `unknown`
where there was none, and the arguments as text, a string standing for
itself and any other value for its compact JSON.
-/

namespace CallScope

open Json Decode

/-- **A call as it is recorded.** -/
structure CanonicalCall where
  name : String
  /-- JSON text; absent when the call carried no arguments. -/
  arguments : Option String
deriving DecidableEq

/-- **A call in the compact shape.** -/
structure CompactCall where
  name : String
  parameters : Option Value

/-- The function of a call in the OpenAI shape. -/
structure FunctionCall where
  name : Option String
  arguments : Option Value

/-- **A call in the OpenAI shape.** -/
structure OpenAiCall where
  id : Option String
  kind : String
  function : FunctionCall

/-- **A call in whichever shape it arrived.** -/
inductive AnyCall where
  | openAi (call : OpenAiCall)
  | compact (call : CompactCall)

/-! ## The canonical form -/

namespace CanonicalCall

/-- A recorded call as JSON. -/
def toValue (c : CanonicalCall) : Value := .object [
  ("name", .string c.name),
  ("arguments", .ofOption .string c.arguments)]

/-- What is kept of a recorded call while it is read. -/
structure Partial where
  name : Option String := none
  arguments : Option (Option String) := none

/-- The record of a recorded call. -/
def record : Record Partial CanonicalCall where
  name := "ToolCall"
  slots := [
    slot "name" false string (·.name) fun s p => { p with name := some s },
    slot "arguments" false (option string) (·.arguments)
      fun s p => { p with arguments := some s }]
  blank := {}
  build := fun p => (required "name" p.name).map fun s => ⟨s, p.arguments.getD none⟩

/-- Reads a recorded call. -/
def decode : Decoder CanonicalCall := record.decode

end CanonicalCall

/-! ## The compact shape -/

namespace CompactCall

/-- A compact call as JSON. -/
def toValue (c : CompactCall) : Value := .object [
  ("name", .string c.name),
  ("parameters", .ofOption id c.parameters)]

/-- What is kept of a compact call while it is read. -/
structure Partial where
  name : Option String := none
  parameters : Option (Option Value) := none

/-- The record of a compact call. -/
def record : Record Partial CompactCall where
  name := "CompactToolCall"
  slots := [
    slot "name" false string (·.name) fun s p => { p with name := some s },
    slot "parameters" true (option any) (·.parameters)
      fun v p => { p with parameters := some v }]
  blank := {}
  build := fun p => (required "name" p.name).map fun s => ⟨s, p.parameters.getD none⟩

/-- Reads a compact call. -/
def decode : Decoder CompactCall := record.decode

end CompactCall

/-! ## The OpenAI shape -/

namespace FunctionCall

/-- The function of a call as JSON: arguments that are absent are left
out. -/
def toValue (f : FunctionCall) : Value :=
  .object (("name", .ofOption .string f.name) :: (f.arguments.map fun v => ("arguments", v)).toList)

/-- What is kept of a function while it is read. -/
structure Partial where
  name : Option (Option String) := none
  arguments : Option (Option Value) := none

/-- The record of a function. -/
def record : Record Partial FunctionCall where
  name := "FunctionCall"
  slots := [
    slot "name" true (option string) (·.name) fun s p => { p with name := some s },
    slot "arguments" true (option any) (·.arguments)
      fun v p => { p with arguments := some v }]
  blank := {}
  build := fun p => .ok ⟨p.name.getD none, p.arguments.getD none⟩

/-- Reads the function of a call. -/
def decode : Decoder FunctionCall := record.decode

end FunctionCall

namespace OpenAiCall

/-- The type of a call that names none. -/
def defaultKind : String := "function"

/-- A call of a function with arguments as JSON text. -/
def ofFunction (name arguments : String) : OpenAiCall :=
  ⟨none, defaultKind, ⟨some name, some (.string arguments)⟩⟩

/-- **The canonical form** of a call. -/
def canonical (c : OpenAiCall) : CanonicalCall where
  name := c.function.name.getD "unknown"
  arguments := c.function.arguments.map fun
    | .string s => s
    | v => v.compact

/-- A call as JSON: an identifier that is absent is left out. -/
def toValue (c : OpenAiCall) : Value :=
  .object ((c.id.map fun s => ("id", Value.string s)).toList ++ [
    ("type", .string c.kind),
    ("function", c.function.toValue)])

/-- What is kept of a call while it is read. -/
structure Partial where
  id : Option (Option String) := none
  kind : Option String := none
  function : Option FunctionCall := none

/-- The record of a call. -/
def record : Record Partial OpenAiCall where
  name := "OpenAiToolCall"
  slots := [
    slot "id" true (option string) (·.id) fun s p => { p with id := some s },
    slot "type" true string (·.kind) fun s p => { p with kind := some s },
    slot "function" false FunctionCall.decode (·.function)
      fun f p => { p with function := some f }]
  blank := {}
  build := fun p => (required "function" p.function).map fun f =>
    ⟨p.id.getD none, p.kind.getD defaultKind, f⟩

/-- Reads a call. -/
def decode : Decoder OpenAiCall := record.decode

end OpenAiCall

/-! ## Either shape -/

namespace AnyCall

/-- A call as JSON, in its shape. -/
def toValue : AnyCall → Value
  | .openAi c => c.toValue
  | .compact c => c.toValue

/-- Reads a call in either shape, the OpenAI one first. -/
def decode : Decoder AnyCall :=
  untagged "AnyToolCall" [OpenAiCall.decode.map .openAi, CompactCall.decode.map .compact]

end AnyCall
end CallScope
