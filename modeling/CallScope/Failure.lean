import CallScope.Text.Quoted

/-!
# Failures of instrumented calls

A call that fails hands over an error of some kind, of which two texts are
kept: the **message**, which becomes the status of the span, and the
**detail**, which is recorded beside it. How the two are spelled depends on
the kind of error:

* a bare text is its own message, and quoted in the detail;
* an error of the operating system wraps a text, and the detail names the
  wrapping;
* a chain of causes shows its outermost one as the message and lists the
  others in the detail, outermost first, numbered when there are several.

A span that is dropped before its call has finished fails as well, with one
text for both.
-/

namespace CallScope

/-- **How a call failed.** -/
structure Failure where
  message : String
  detail : String
deriving DecidableEq

namespace Failure

/-- A bare text. -/
def ofText (s : String) : Failure := ⟨s, Text.Quoted.quote s⟩

/-- An error of the operating system that wraps a text. -/
def ofSystem (s : String) : Failure :=
  ⟨s, Text.Quoted.record "Custom" [("kind", "Other"), ("error", Text.Quoted.quote s)] false⟩

/-- Where a call was left without an outcome. -/
def abandoned (message : String) : Failure := ⟨message, message⟩

/-- A span dropped with its call still in flight. -/
def cancelled : Failure := abandoned "LLM call cancelled before the span was closed"

/-- A span dropped while a panic unwinds. -/
def panicked : Failure := abandoned "panicked while the LLM call was in flight"

/-! ## Chains of causes -/

/-- A text with every line but the first set in by a margin. -/
def setIn (margin : List Char) (s : List Char) : List Char :=
  s.flatMap fun c => if c = '\n' then '\n' :: margin else [c]

/-- A number flush right in five columns. -/
def numberColumn (n : Nat) : List Char :=
  let digits := Nat.toDigits 10 n
  List.replicate (5 - digits.length) ' ' ++ digits

/-- One cause of several, under its number. -/
def numberedCause (n : Nat) (cause : String) : List Char :=
  '\n' :: (numberColumn n ++ [':', ' '] ++ setIn (List.replicate 7 ' ') cause.toList)

/-- Causes under consecutive numbers. -/
def numberedCauses : Nat → List String → List Char
  | _, [] => []
  | n, cause :: rest => numberedCause n cause ++ numberedCauses (n + 1) rest

/-- The listing of causes, if there are any. -/
def listing : List String → List Char
  | [] => []
  | [cause] =>
    "\n\nCaused by:\n    ".toList ++ setIn (List.replicate 4 ' ') cause.toList
  | causes => "\n\nCaused by:".toList ++ numberedCauses 0 causes

/-- A chain of causes, outermost first. -/
def ofCauses (outermost : String) (causes : List String) : Failure :=
  ⟨outermost, outermost ++ String.ofList (listing causes)⟩

/-- **A chain of causes** that began with `root` and was given one more
context after another. -/
def ofChain (root : String) (contexts : List String) : Failure :=
  match contexts.reverse with
  | [] => ofCauses root []
  | outermost :: inner => ofCauses outermost (inner ++ [root])

end Failure
end CallScope
