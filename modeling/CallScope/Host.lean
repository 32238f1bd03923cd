import CallScope.Session

/-!
# The backends of a host program

A host program may install one pair of backends for all its code that is not
handed any. The first installation holds for good; until then, signals are
discarded.
-/

namespace CallScope

open Json

/-- **The backends of a host program**, and the number of handles started
in it. -/
structure Host where
  installed : Option Backends := none
  started : Nat := 0

namespace Host

/-- **Install backends**, and whether they were the first. -/
def install (host : Host) (backends : Backends) : Host × Bool :=
  match host.installed with
  | some _ => (host, false)
  | none => ({ host with installed := some backends }, true)

/-- The installed backends, or those that discard everything. -/
def backends (host : Host) : Backends := host.installed.getD .discard

/-- **A whole call over the installed backends**: a span is opened, given
the usage of a payload, and closed. -/
def call (host : Host) (model provider : String) (payload : Value) (now : Moment) :
    Host × Option CallSummary × List Report :=
  let (session, described) := Session.setup host.backends {} true true
  let id := "call"
  let opened := { session with started := host.started }.step now (.start id model provider none)
  let used := opened.session.step now (.apply id (.set (.usagePayload payload)))
  let closed := used.session.step now (.apply id .close)
  let summary := match closed.answer with
    | .summary summary => summary
    | _ => none
  ({ host with started := closed.session.started }, summary,
    described ++ opened.reports ++ used.reports ++ closed.reports)

end Host
end CallScope
