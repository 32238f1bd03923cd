import CallScope.Decode.Fault

/-!
# Errors

What goes wrong in instrumentation never reaches the instrumented call. A
setter that meets an error logs its wording and records nothing; only
loading a configuration hands an error to its caller.

An error that merely passes on another one has the wording of that one.
-/

namespace CallScope

open Decode

/-- **What can go wrong.** -/
inductive Error where
  /-- A payload has the wrong shape. -/
  | invalidPayload (reason : String)
  /-- A request parameter is no value of its type. -/
  | coercion (parameter expected value : String)
  /-- A configuration cannot be used. -/
  | config (reason : String)
  /-- JSON cannot be decoded. -/
  | decode (fault : Fault)
  /-- A file cannot be read. -/
  | file (reason : String)
  /-- Anything else. -/
  | other (reason : String)
deriving DecidableEq

/-- The wording of a decoding fault. -/
def Decode.Fault.message : Fault → String
  | .flaw .malformed => "malformed JSON"
  | .flaw .truncated => "truncated JSON"
  | .mismatch m => m.message

namespace Error

/-- **The wording of an error.** -/
def message : Error → String
  | .invalidPayload reason => "invalid payload: " ++ reason
  | .coercion parameter expected value =>
    "cannot coerce " ++ ticked parameter ++ " to " ++ expected ++ ": " ++ value
  | .config reason => "config error: " ++ reason
  | .decode fault => fault.message
  | .file reason => reason
  | .other reason => reason

/-- Tool calls come as a list. -/
def toolCallsNoList : Error := .invalidPayload "tool_calls must be a list"

/-- Messages come as a list. -/
def messagesNoList : Error := .invalidPayload "messages must be a list"

/-- Request parameters come as an object. -/
def parametersNoObject : Error := .invalidPayload "invocation parameters must be an object"

end Error
end CallScope
