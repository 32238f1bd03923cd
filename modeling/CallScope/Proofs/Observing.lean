import CallScope.Proofs.ClosedOnce
import CallScope.Session

/-!
# Observing leaves a call as it is

Polling an observation while its call is pending does nothing but use up one of
the polls that the call needs (`Observation.poll_of_waiting`). So any number of
such polls may be left out at the beginning of a run
(`Observation.run_append_of_waiting`), and what is left of the run is a single
step: the poll that brings the outcome, or the drop of the span.

What that step is to the span, and to whoever awaits the call, is all there is to
an observation (`Span.observe_transparent`).
-/

namespace CallScope

open Json

namespace Observation

variable {ε α : Type}

/-- **An observation that so many polls find pending.** -/
def Waiting (o : Observation ε α) (polls : Nat) : Prop :=
  polls ≤ o.call.waits ∨ o.call.outcome = none

/-- An observation after so many polls that found it pending. -/
def after (o : Observation ε α) (polls : Nat) : Observation ε α :=
  { o with call := ⟨o.call.waits - polls, o.call.outcome⟩ }

/-- **A poll that finds the call pending** leaves the span alone. -/
theorem poll_of_waiting {o : Observation ε α} (h : o.Waiting 1) (now : Moment) :
    o.poll now = .pending (o.after 1) := by
  obtain ⟨span, describe, waits, outcome⟩ := o
  cases waits with
  | succ waits => rfl
  | zero =>
    rcases h with hwaits | hnone
    · exact absurd hwaits (Nat.not_succ_le_zero 0)
    · cases hnone
      rfl

/-- The polls that find an observation pending come one after another. -/
theorem waiting_succ {o : Observation ε α} {polls : Nat} (h : o.Waiting (polls + 1)) :
    o.Waiting 1 ∧ (o.after 1).Waiting polls := by
  rcases h with hwaits | hnone
  · exact ⟨.inl (Nat.le_trans (Nat.le_add_left 1 polls) hwaits), .inl (Nat.le_sub_of_add_le hwaits)⟩
  · exact ⟨.inr hnone, .inr hnone⟩

/-- Polls add up. -/
theorem after_add (o : Observation ε α) (first second : Nat) :
    (o.after first).after second = o.after (first + second) := by
  unfold after
  rw [Nat.sub_sub]

/-- **Polls that find the call pending have no effect of their own**: a run that
begins with them is the rest of the run. -/
theorem run_append_of_waiting {o : Observation ε α} {early : List Moment}
    (h : o.Waiting early.length) (panicking : Bool) (givenUp : Moment) (later : List Moment) :
    o.run panicking givenUp (early ++ later)
      = (o.after early.length).run panicking givenUp later := by
  induction early generalizing o with
  | nil => rfl
  | cons now early ih =>
    obtain ⟨hnow, hearly⟩ := waiting_succ h
    rw [List.cons_append, run, poll_of_waiting hnow]
    dsimp only
    rw [ih hearly, after_add, Nat.add_comm, List.length_cons]

/-- **An observation that is given up while it is pending** drops its span. -/
theorem run_of_waiting {o : Observation ε α} {moments : List Moment}
    (h : o.Waiting moments.length) (panicking : Bool) (givenUp : Moment) :
    o.run panicking givenUp moments = .cancelled (o.span.drop panicking givenUp).signals := by
  have hrun := run_append_of_waiting h panicking givenUp []
  rw [List.append_nil] at hrun
  exact hrun

/-- **An observation that is polled often enough** takes the step of its outcome
at the moment of the poll that brings it. -/
theorem run_of_outcome {o : Observation ε α} {outcome : Except ε α}
    (houtcome : o.call.outcome = some outcome) {moments : List Moment} {now : Moment}
    (hnow : moments[o.call.waits]? = some now) (panicking : Bool) (givenUp : Moment) :
    let done := o.span.step true now (.observe (o.outcomeFor outcome))
    o.run panicking givenUp moments = .completed done.span outcome done.signals := by
  obtain ⟨hlt, hget⟩ := List.getElem?_eq_some_iff.mp hnow
  have hlength : (moments.take o.call.waits).length = o.call.waits :=
    List.length_take_of_le (Nat.le_of_lt hlt)
  have hsplit : moments
      = moments.take o.call.waits ++ now :: moments.drop (o.call.waits + 1) := by
    rw [← hget, ← List.drop_eq_getElem_cons hlt, List.take_append_drop]
  have hpoll : (o.after o.call.waits).poll now
      = .ready (o.span.step true now (.observe (o.outcomeFor outcome))).span outcome
          (o.span.step true now (.observe (o.outcomeFor outcome))).signals := by
    unfold poll after
    rw [Nat.sub_self, houtcome]
    rfl
  intro done
  rw [hsplit, run_append_of_waiting (.inl (Nat.le_of_eq hlength)), hlength, run, hpoll]

end Observation

namespace Span

/-- Dropping a span that is still open closes it, once and as an error. -/
theorem drop_closedOnce {span : Span} (h : span.isOpen = true) (panicking : Bool)
    (now : Moment) :
    let dropped := span.drop panicking now
    dropped.span.isOpen = false
      ∧ ClosedOnce dropped.span ⟨some (if panicking then .panicked else .cancelled), now⟩
          dropped.signals := by
  unfold drop
  rw [conclude_of_open h]
  exact ⟨rfl, @closedOnce_append [] nofun { span with isOpen := false } ⟨_, now⟩⟩

/-- **Observing a call is transparent**, in whatever state the span is and however
often the call is polled. A value comes back as it is, and the span stays as it was
and sends nothing. An error comes back as it is, and is to the span what closing it
with that error is, whether or not its handle records: nothing if it was closed
before. An observation that is given up while the call is pending is to the span what
dropping it is: closing it as an error if it was open, and nothing if it was closed.
Polls that find the call pending have no effect of their own. -/
theorem observe_transparent {ε α : Type} (span : Span) (describe : ε → Failure)
    (call : PendingCall ε α) (moments : List Moment) (panicking : Bool) (givenUp : Moment) :
    let o := span.observe describe call
    (∀ v now, call.outcome = some (.ok v) → moments[call.waits]? = some now →
      o.run panicking givenUp moments = .completed span (.ok v) [])
    ∧ (∀ error now, call.outcome = some (.error error) → moments[call.waits]? = some now →
      ∀ recording : Bool,
      let closed := span.step recording now (.fail (describe error))
      o.run panicking givenUp moments = .completed closed.span (.error error) closed.signals
        ∧ (span.isOpen = false → closed.span = span ∧ closed.signals = []))
    ∧ (o.Waiting moments.length →
      let dropped := span.drop panicking givenUp
      o.run panicking givenUp moments = .cancelled dropped.signals
        ∧ (span.isOpen = true → ClosedOnce dropped.span
          ⟨some (if panicking then .panicked else .cancelled), givenUp⟩ dropped.signals)
        ∧ (span.isOpen = false → dropped.span = span ∧ dropped.signals = []))
    ∧ (∀ early : List Moment, o.Waiting early.length →
      o.run panicking givenUp (early ++ moments)
        = (o.after early.length).run panicking givenUp moments) := by
  intro o
  refine ⟨fun v now hv hnow => ?_, fun error now herror hnow recording => ⟨?_, ?_⟩,
    fun hwaiting => ⟨?_, ?_, ?_⟩, fun early hwaiting => ?_⟩
  · exact Observation.run_of_outcome (o := o) hv hnow panicking givenUp
  · exact Observation.run_of_outcome (o := o) herror hnow panicking givenUp
  · intro hclosed
    rw [step_of_outcome rfl, conclude_of_closed hclosed]
    exact ⟨rfl, rfl⟩
  · exact Observation.run_of_waiting hwaiting panicking givenUp
  · exact fun hopen => (drop_closedOnce hopen panicking givenUp).2
  · intro hclosed
    unfold drop
    rw [conclude_of_closed hclosed]
    exact ⟨rfl, rfl⟩
  · exact Observation.run_append_of_waiting hwaiting panicking givenUp moments

/-- Two polls find a call pending and the third brings its value, or its error, which
closes an open span and leaves a closed one alone. Two polls of a call that needs three
cancel it. -/
theorem observe_transparent_third_poll :
    let span := ((Instrumentor.ofConfig {}).start "gpt-4o" "openai" none ⟨0⟩).span
    let closed := { span with isOpen := false }
    let ended : Ending := ⟨some .cancelled, ⟨9⟩⟩
    let value : PendingCall String Nat := ⟨2, some (.ok 7)⟩
    let error : PendingCall String Nat := ⟨2, some (.error "timed out")⟩
    span.isOpen = true ∧ closed.isOpen = false
      ∧ (span.observe .ofText value).run false ⟨9⟩ [⟨1⟩, ⟨2⟩, ⟨3⟩] = .completed span (.ok 7) []
      ∧ (span.observe .ofText error).run false ⟨9⟩ [⟨1⟩, ⟨2⟩, ⟨3⟩]
        = .completed closed (.error "timed out")
          (span.closingSignals (some (.ofText "timed out")) ⟨3⟩)
      ∧ (closed.observe .ofText error).run false ⟨9⟩ [⟨1⟩, ⟨2⟩, ⟨3⟩]
        = .completed closed (.error "timed out") []
      ∧ (∃ signals, (span.observe .ofText value).run false ⟨9⟩ [⟨1⟩, ⟨2⟩] = .cancelled signals
        ∧ ClosedOnce closed ended signals)
      ∧ (closed.observe .ofText value).run false ⟨9⟩ [⟨1⟩, ⟨2⟩] = .cancelled [] := by
  intro span closed ended value error
  have hopen : span.isOpen = true := rfl
  have hclosed : closed.isOpen = false := rfl
  have hvalue := observe_transparent span .ofText value [⟨1⟩, ⟨2⟩, ⟨3⟩] false ⟨9⟩
  have herror := observe_transparent span .ofText error [⟨1⟩, ⟨2⟩, ⟨3⟩] false ⟨9⟩
  have hagain := observe_transparent closed .ofText error [⟨1⟩, ⟨2⟩, ⟨3⟩] false ⟨9⟩
  have hcut := observe_transparent span .ofText value [⟨1⟩, ⟨2⟩] false ⟨9⟩
  have hleft := observe_transparent closed .ofText value [⟨1⟩, ⟨2⟩] false ⟨9⟩
  have hfailed : span.step true ⟨3⟩ (.fail (.ofText "timed out"))
      = ⟨closed, some (span.summarize (some (.ofText "timed out")) ⟨3⟩),
          span.closingSignals (some (.ofText "timed out")) ⟨3⟩⟩ :=
    conclude_of_open hopen _ _
  have hdropped : (span.drop false ⟨9⟩).span = closed :=
    congrArg Closed.span (conclude_of_open hopen _ _)
  obtain ⟨hcancelled, hended, -⟩ := hcut.2.2.1 (.inl (by decide))
  refine ⟨hopen, hclosed, hvalue.1 7 ⟨3⟩ rfl rfl, ?_, ?_, ⟨_, hcancelled, ?_⟩, ?_⟩
  · have hrun := (herror.2.1 "timed out" ⟨3⟩ rfl rfl true).1
    rw [hfailed] at hrun
    exact hrun
  · obtain ⟨hrun, hkept⟩ := hagain.2.1 "timed out" ⟨3⟩ rfl rfl true
    rw [(hkept hclosed).1, (hkept hclosed).2] at hrun
    exact hrun
  · have honce := hended hopen
    rw [hdropped] at honce
    exact honce
  · obtain ⟨hrun, -, hnothing⟩ := hleft.2.2.1 (.inl (by decide))
    rw [(hnothing hclosed).2] at hrun
    exact hrun

end Span

/-! ## Sessions -/

/-- A span that is held comes in place of the one under its name. -/
theorem lookup_insertHeld (id name : String) (held : HeldSpan)
    (spans : List (String × HeldSpan)) :
    (insertHeld id held spans).lookup name
      = if name = id then some held else spans.lookup name := by
  have hcons : ∀ (k : String) (kept : HeldSpan) (rest : List (String × HeldSpan)),
      ((k, kept) :: rest).lookup name = if name = k then some kept else rest.lookup name := by
    intro k kept rest
    rw [List.lookup_cons]
    by_cases hname : name = k
    · rw [beq_iff_eq.mpr hname, if_pos hname]
    · rw [beq_false_of_ne hname, if_neg hname]
  induction spans with
  | nil => exact hcons id held []
  | cons entry rest ih =>
    obtain ⟨k, other⟩ := entry
    rw [insertHeld]
    split
    · -- the span under the name is replaced
      subst k
      rw [hcons, hcons]
      split <;> rfl
    · split
      · exact hcons id held _
      · rename_i hne _
        rw [hcons, hcons, ih]
        split
        · subst name
          rw [if_neg hne]
        · rfl

namespace Session

/-- A session that keeps a span as it was holds the same spans. -/
theorem find?_keep {session : Session} {id : String} {held : HeldSpan}
    (h : session.find? id = some held) (name : String) :
    (session.keep id held).find? name = session.find? name := by
  unfold keep find?
  rw [lookup_insertHeld]
  split
  · subst name
    exact h.symm
  · rfl

/-- A step on a span that is held is done with that span. -/
theorem onHeld_of_find? {session : Session} {id : String} {held : HeldSpan}
    (h : session.find? id = some held) (act : HeldSpan → Stepped) :
    session.onHeld id act = act held := by
  unfold onHeld
  rw [h]

/-- **Observing a call in a session.** A value is answered, nothing is reported, and the
session holds the same spans. An error is answered, and it is to the session what
failing the span with it is. Giving up is what dropping the span is. -/
theorem step_observe {session : Session} {id : String} {held : HeldSpan}
    (h : session.find? id = some held) (now : Moment) (polls : Nat)
    (call : PendingCall Failure Value) :
    let observed := session.step now (.observe id polls call)
    (call.waits < polls → ∀ v, call.outcome = some (.ok v) →
      observed.answer = .completed (.ok v) ∧ observed.reports = []
        ∧ ∀ name, observed.session.find? name = session.find? name)
    ∧ (call.waits < polls → ∀ failure, call.outcome = some (.error failure) →
      let failed := session.step now (.apply id (.fail failure))
      observed = ⟨failed.session, .completed (.error failure), failed.reports⟩)
    ∧ (polls ≤ call.waits ∨ call.outcome = none →
      let dropped := session.step now (.drop id false)
      observed = ⟨dropped.session, .cancelled, dropped.reports⟩) := by
  intro observed
  let o := held.span.observe (fun failure => failure) call
  have hobserved : observed = session.observeWith id held polls call now := onHeld_of_find? h _
  have hnow : call.waits < polls → (List.replicate polls now)[call.waits]? = some now :=
    fun hlt => List.getElem?_replicate_of_lt hlt
  refine ⟨fun hlt v hv => ?_, fun hlt failure hfailure => ?_, fun hwaiting => ?_⟩
  · have hrun := Observation.run_of_outcome (o := o) hv (hnow hlt) false now
    rw [hobserved, observeWith, hrun]
    exact ⟨rfl, rfl, find?_keep h⟩
  · have hfailed : session.step now (.apply id (.fail failure))
        = session.applyTo id held (.fail failure) now := onHeld_of_find? h _
    have hrun := Observation.run_of_outcome (o := o) hfailure (hnow hlt) false now
    rw [hobserved, observeWith, hrun, hfailed]
    rfl
  · have hdropped : session.step now (.drop id false)
        = ⟨{ session with held := eraseHeld id session.held }, .nothing,
            session.dropReports held false now⟩ := onHeld_of_find? h _
    have hlength : o.Waiting (List.replicate polls now).length := by
      rwa [List.length_replicate]
    have hrun := Observation.run_of_waiting hlength false now
    rw [hobserved, observeWith, hrun, hdropped]
    rfl

end Session
end CallScope
