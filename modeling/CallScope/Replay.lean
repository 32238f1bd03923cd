import CallScope.Exchange
import CallScope.Instrumentor

/-!
# Replaying exchanges

Exchanges are replayed side by side, each as a task of its own. A task has
two turns: in the first it opens its span and records the request, in the
second it records the response and closes. In between, and in any order,
other tasks have theirs (`Replay.run`).

Whatever the order of the turns, the summaries come in the order of the
exchanges (`Replay.summaries`). `Replay.timetable` is the order in which the
turns come if all calls start at once and each takes as long as was
recorded.
-/

namespace CallScope

/-- **A task**: one exchange that is being replayed. -/
inductive Task where
  | waiting (exchange : Exchange)
  | inFlight (exchange : Exchange) (span : Span)
  | done (summary : Option CallSummary)

/-- A turn of a task. -/
structure Turn where
  /-- The number of the task. -/
  task : Nat
  moment : Moment

namespace Span

/-- Setters one after another. -/
def setAll (span : Span) (recording : Bool) (setters : List Setter) : Recorded :=
  setters.foldl (fun done setter => done.andThen fun span => span.set recording setter)
    span.unchanged

end Span

namespace Exchange

/-- The first part of a replay: a span is opened and the request
recorded. -/
def openSpan (e : Exchange) (inst : Instrumentor) (recording : Bool) (now : Moment) :
    Span.Recorded :=
  (inst.start e.model e.providerName e.operation now).andThen fun span =>
    span.setAll recording e.requestSetters

/-- The second part of a replay: the response is recorded and the span
closed. -/
def closeSpan (e : Exchange) (span : Span) (recording : Bool) (now : Moment) : Span.Closed :=
  let recorded := span.setAll recording e.responseSetters
  let closed := recorded.span.step recording now (.finish e.outcome)
  { closed with signals := recorded.signals ++ closed.signals }

end Exchange

namespace Task

/-- The next part of a task, and what it sends out. -/
def advance (inst : Instrumentor) (recording : Bool) (now : Moment) : Task → Task × List Signal
  | .waiting e =>
    let opened := e.openSpan inst recording now
    (.inFlight e opened.span, opened.signals)
  | .inFlight e span =>
    let closed := e.closeSpan span recording now
    (.done closed.summary, closed.signals)
  | .done summary => (.done summary, [])

/-- The summary of a task that is done. -/
def summary? : Task → Option CallSummary
  | .done summary => summary
  | _ => none

end Task

/-- **A replay.** -/
structure Replay where
  instrumentor : Instrumentor
  /-- Whether the handles of its spans record. -/
  recording : Bool
  tasks : List Task

namespace Replay

/-- A replay of which no task has had a turn. -/
def ofExchanges (instrumentor : Instrumentor) (recording : Bool) (exchanges : List Exchange) :
    Replay :=
  ⟨instrumentor, recording, exchanges.map .waiting⟩

/-- One turn, and what the task sends out, under its number. -/
def take (r : Replay) (turn : Turn) : Replay × List (Nat × Signal) :=
  match r.tasks[turn.task]? with
  | none => (r, [])
  | some task =>
    let (task, signals) := task.advance r.instrumentor r.recording turn.moment
    ({ r with tasks := r.tasks.set turn.task task }, signals.map fun signal => (turn.task, signal))

/-- **Turns one after another**, and what they send out. -/
def run (r : Replay) : List Turn → Replay × List (Nat × Signal)
  | [] => (r, [])
  | turn :: turns =>
    let (r, first) := r.take turn
    let (r, rest) := r.run turns
    (r, first ++ rest)

/-- **The summaries** of the tasks that are done, in the order of the
exchanges. -/
def summaries (r : Replay) : List CallSummary := r.tasks.filterMap Task.summary?

/-- The moment at which a call that starts at another one has come back. -/
def returnOf (start : Moment) (e : Exchange) : Moment :=
  ⟨start.nanos + e.delay.toNat * 10 ^ 6⟩

/-- The second turns, each when its call has come back. -/
def returns (start : Moment) (exchanges : List Exchange) : List Turn :=
  (List.range exchanges.length).zipWith (fun i e => ⟨i, returnOf start e⟩) exchanges

/-- **The turns of a replay** in which all calls start at the same moment and
take as long as was recorded. -/
def timetable (start : Moment) (exchanges : List Exchange) : List Turn :=
  (List.range exchanges.length).map (fun i => ⟨i, start⟩)
    ++ (returns start exchanges).mergeSort fun a b => a.moment.nanos ≤ b.moment.nanos

end Replay
end CallScope
