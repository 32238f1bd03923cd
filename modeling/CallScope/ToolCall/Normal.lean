import CallScope.Error
import CallScope.Json.Draft.Reader
import CallScope.ToolCall

/-!
# Tool calls in one shape

Tool calls reach a span in the OpenAI shape, in the compact shape, as a
list of both, or as compact calls inside a text response. All of them are
brought into the OpenAI shape here, in the order they came in.

Two rules decide what is a call. An entry of a list that has neither shape
is passed over, and passing over one does not renumber the others
(`AnyCall.readIndexed`). A text response holds calls only if the whole of
it is a JSON object with a member `tool_calls` (`embeddedCalls?`), and of
that member's entries only the compact ones count.
-/

namespace CallScope

open Json Decode

namespace CompactCall

/-- The compact calls among the entries of a list. -/
def ofEntries (entries : List Value) : List CompactCall :=
  entries.filterMap fun entry => (decode.ofValue entry).toOption

/-- **The compact calls of a value**: those among its entries, and none if
it is no list. -/
def ofValue : Value → List CompactCall
  | .array entries => ofEntries entries
  | _ => []

/-- **A compact call in the OpenAI shape**, its parameters written out as
spaced JSON. A call without parameters has none to pass. -/
def toOpenAi (c : CompactCall) : OpenAiCall :=
  .ofFunction c.name (c.parameters.getD (.object [])).spaced

/-- The compact calls of a value in the OpenAI shape. -/
def convert (v : Value) : List OpenAiCall := (ofValue v).map toOpenAi

end CompactCall

/-- **The calls inside a text response**: none are looked for unless the
whole text is a JSON object with a member `tool_calls`. -/
def embeddedCalls? (content : String) : Option (List OpenAiCall) :=
  match Value.ofText content with
  | .ok v => (v.get? "tool_calls").map CompactCall.convert
  | .error _ => none

namespace AnyCall

/-- **A call in the OpenAI shape**, whichever shape it came in. -/
def toOpenAi : AnyCall → OpenAiCall
  | .openAi c => c
  | .compact c => c.toOpenAi

/-- The call that an entry of a list is, in the OpenAI shape. -/
def ofEntry? (entry : Value) : Option OpenAiCall :=
  (decode.ofValue entry).toOption.map toOpenAi

/-- The calls among entries, numbered from `index` on by their position. -/
def readEntries (index : Nat) : List Value → List (Nat × OpenAiCall)
  | [] => []
  | entry :: rest =>
    match ofEntry? entry with
    | some call => (index, call) :: readEntries (index + 1) rest
    | none => readEntries (index + 1) rest

/-- **The calls of a list in either shape, with their positions in it.** -/
def readIndexed : Value → Except Error (List (Nat × OpenAiCall))
  | .array entries => .ok (readEntries 0 entries)
  | _ => .error .toolCallsNoList

/-- The calls of a list in either shape. -/
def read (v : Value) : Except Error (List OpenAiCall) :=
  (readIndexed v).map fun calls => calls.map Prod.snd

end AnyCall
end CallScope
