import CallScope.Span.Closing

/-!
# Observing a call in flight

A call in flight gives its outcome when it is polled often enough. While a
span observes it, the two are held together: polling the observation polls
the call, and the poll that brings the outcome hands the span back, closed
if the outcome is an error. An observation that is given up drops its
span.

The errors of a call may be of any kind: the span keeps two texts of an
error, and hands the error itself on.
-/

namespace CallScope

/-- **A call in flight.** -/
structure PendingCall (ε α : Type) where
  /-- How many polls find it pending. -/
  waits : Nat
  /-- What it gives after that; a call without an outcome stays pending. -/
  outcome : Option (Except ε α)

/-- **A span together with the call it observes.** -/
structure Observation (ε α : Type) where
  span : Span
  /-- The texts that are kept of an error. -/
  describe : ε → Failure
  call : PendingCall ε α

namespace Observation

variable {ε α : Type}

/-- What an outcome is to the span that observes the call. -/
def outcomeFor (o : Observation ε α) : Except ε α → Except Failure Unit
  | .ok _ => .ok ()
  | .error error => .error (o.describe error)

/-- What one poll of an observation brings. -/
inductive Poll (ε α : Type) where
  | pending (next : Observation ε α)
  /-- The call's own outcome, and the span handed back. -/
  | ready (span : Span) (outcome : Except ε α) (signals : List Signal)

/-- **Poll the call once.** -/
def poll (o : Observation ε α) (now : Moment) : Poll ε α :=
  match o.call.waits, o.call.outcome with
  | waits + 1, outcome => .pending { o with call := ⟨waits, outcome⟩ }
  | 0, none => .pending o
  | 0, some outcome =>
    let done := o.span.step true now (.observe (o.outcomeFor outcome))
    .ready done.span outcome done.signals

/-- What an observation comes to. -/
inductive Result (ε α : Type) where
  /-- The call has given its outcome and the span is back. -/
  | completed (span : Span) (outcome : Except ε α) (signals : List Signal)
  /-- The observation was given up, and the span with it. -/
  | cancelled (signals : List Signal)

/-- **Poll at one moment after another**, and give up if the outcome is not
there after the last of them. -/
def run (o : Observation ε α) (panicking : Bool) (givenUp : Moment) :
    List Moment → Result ε α
  | [] => .cancelled (o.span.drop panicking givenUp).signals
  | now :: later =>
    match o.poll now with
    | .ready span outcome signals => .completed span outcome signals
    | .pending next => next.run panicking givenUp later

end Observation

/-- A span observes a call. -/
def Span.observe {ε α : Type} (span : Span) (describe : ε → Failure) (call : PendingCall ε α) :
    Observation ε α := ⟨span, describe, call⟩

end CallScope
