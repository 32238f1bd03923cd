import CallScope.Instrumentor
import CallScope.Proofs.Setting
import CallScope.Span.Closing

/-!
# Runs of a span

Between opening and dropping, a span takes any number of turns. A turn is an
operation together with what is not for the span to decide: the moment, and
what the handle answers if it is asked whether it records. A run is any list
of turns (`Span.run`), and the life of a span is its opening, a run, and
being dropped (`Instrumentor.life`).

Two facts about a single turn carry over to runs. A turn never changes what
call the span stands for (`Span.Continues`). And a turn either closes the
span or leaves the outcome open (`SpanOp.outcome?`): in the second case it
sends nothing but attributes and warnings, and in the first case it sends
one block of signals, after which the span is inert.
-/

namespace CallScope

/-- **A turn of a span.** -/
structure SpanTurn where
  /-- What the handle answers if it is asked whether it records. -/
  recording : Bool
  moment : Moment
  op : SpanOp

/-- **What turns come to**: the span after them, what each of them answered,
and everything they sent out. -/
structure SpanRun where
  span : Span
  answers : List (Option CallSummary)
  signals : List Signal

namespace Span

/-- **Turns one after another.** -/
def run (span : Span) : List SpanTurn → SpanRun
  | [] => ⟨span, [], []⟩
  | turn :: turns =>
    let done := span.step turn.recording turn.moment turn.op
    let rest := done.span.run turns
    ⟨rest.span, done.summary :: rest.answers, done.signals ++ rest.signals⟩

@[simp] theorem run_nil (span : Span) : span.run [] = ⟨span, [], []⟩ := rfl

theorem run_cons (span : Span) (turn : SpanTurn) (turns : List SpanTurn) :
    let done := span.step turn.recording turn.moment turn.op
    let rest := done.span.run turns
    span.run (turn :: turns)
      = ⟨rest.span, done.summary :: rest.answers, done.signals ++ rest.signals⟩ := rfl

/-- Turns that come behind others find the span as those leave it. -/
theorem run_append (span : Span) (first second : List SpanTurn) :
    span.run (first ++ second)
      = ⟨((span.run first).span.run second).span,
          (span.run first).answers ++ ((span.run first).span.run second).answers,
          (span.run first).signals ++ ((span.run first).span.run second).signals⟩ := by
  induction first generalizing span with
  | nil => rfl
  | cons turn first ih =>
    rw [List.cons_append, run_cons, run_cons, ih, List.cons_append, List.append_assoc]

/-! ## Turn by turn -/

/-- **A turn in its run**: the span that it finds, and what it leads to. -/
structure Passage where
  turn : SpanTurn
  found : Span
  done : Closed

/-- The turns of a run, each with the span that it finds. -/
def passages (span : Span) : List SpanTurn → List Passage
  | [] => []
  | turn :: turns =>
    let done := span.step turn.recording turn.moment turn.op
    ⟨turn, span, done⟩ :: done.span.passages turns

/-- A run answers what its turns answer. -/
theorem answers_run (span : Span) (turns : List SpanTurn) :
    (span.run turns).answers = (span.passages turns).map fun p => p.done.summary := by
  induction turns generalizing span with
  | nil => rfl
  | cons turn turns ih => exact congrArg (_ :: ·) (ih _)

/-- A run sends what its turns send. -/
theorem signals_run (span : Span) (turns : List SpanTurn) :
    (span.run turns).signals = (span.passages turns).flatMap fun p => p.done.signals := by
  induction turns generalizing span with
  | nil => rfl
  | cons turn turns ih => exact congrArg (_ ++ ·) (ih _)

/-! ## The call a span stands for -/

/-- **One span is a later state of another**: it stands for the same call,
under the same limits and names of instruments. -/
structure Continues (before after : Span) : Prop where
  limits : after.limits = before.limits
  metrics : after.metrics = before.metrics
  tags : after.tags = before.tags
  operation : after.operation = before.operation
  openedAt : after.openedAt = before.openedAt

theorem Continues.refl (span : Span) : span.Continues span := ⟨rfl, rfl, rfl, rfl, rfl⟩

theorem Continues.trans {first second third : Span} (h : first.Continues second)
    (h' : second.Continues third) : first.Continues third :=
  ⟨h'.limits.trans h.limits, h'.metrics.trans h.metrics, h'.tags.trans h.tags,
    h'.operation.trans h.operation, h'.openedAt.trans h.openedAt⟩

theorem continues_set (span : Span) (recording : Bool) (setter : Setter) :
    span.Continues (span.set recording setter).span := by
  rw [set_eq, whenActive]
  split
  · rw [span_record]
    exact ⟨rfl, rfl, rfl, rfl, rfl⟩
  · exact Continues.refl span

theorem continues_conclude (span : Span) (failure : Option Failure) (now : Moment) :
    span.Continues (span.conclude failure now).span := by
  unfold conclude
  split
  · exact ⟨rfl, rfl, rfl, rfl, rfl⟩
  · exact Continues.refl span

/-! ## Turns that close and turns that do not -/

/-- What a span sends when it is closed: the metrics, the outcome, and the
end of the handle. -/
def closingSignals (span : Span) (failure : Option Failure) (now : Moment) : List Signal :=
  (span.samples now).map .metric ++ span.outcomeSignals failure ++ [.handle .finish]

/-- An open span is closed. -/
theorem conclude_of_open {span : Span} (h : span.isOpen = true) (failure : Option Failure)
    (now : Moment) :
    span.conclude failure now
      = ⟨{ span with isOpen := false }, some (span.summarize failure now),
          span.closingSignals failure now⟩ := by
  unfold conclude
  rw [h]
  rfl

/-- A closed span stays as it is. -/
theorem conclude_of_closed {span : Span} (h : span.isOpen = false) (failure : Option Failure)
    (now : Moment) : span.conclude failure now = ⟨span, none, []⟩ := by
  unfold conclude
  rw [h]
  rfl

end Span

/-- **The outcome that an operation closes a span with**, if it is one that
closes. -/
def SpanOp.outcome? : SpanOp → Option (Option Failure)
  | .set _ => none
  | .close => some none
  | .fail failure => some (some failure)
  | .finish outcome => some (Span.failureOf outcome)
  | .observe (.ok ()) => none
  | .observe (.error failure) => some (some failure)

namespace Span

/-- An operation with an outcome closes the span with it. -/
theorem step_of_outcome {op : SpanOp} {failure : Option Failure} (h : op.outcome? = some failure)
    (span : Span) (recording : Bool) (now : Moment) :
    span.step recording now op = span.conclude failure now := by
  cases op with
  | set setter => cases h
  | observe outcome =>
    cases outcome with
    | ok => cases h
    | error error => cases h; rfl
  | _ => cases h; rfl

/-- An operation without an outcome is a setter, or leaves the span alone. -/
theorem step_of_no_outcome {op : SpanOp} (h : op.outcome? = none) (span : Span)
    (recording : Bool) (now : Moment) :
    (∃ setter, op = .set setter) ∨ span.step recording now op = ⟨span, none, []⟩ := by
  cases op with
  | set setter => exact .inl ⟨setter, rfl⟩
  | observe outcome =>
    cases outcome with
    | ok => exact .inr rfl
    | error error => cases h
  | _ => cases h

/-- A setter leaves a closed span as it is. -/
theorem set_of_closed {span : Span} (h : span.isOpen = false) (recording : Bool)
    (setter : Setter) : span.set recording setter = span.unchanged := by
  rw [set_eq, whenActive, h]
  rfl

/-- A setter acts on an open span whose handle records. -/
theorem set_of_open {span : Span} (h : span.isOpen = true) (setter : Setter) :
    span.set true setter = span.record setter := by
  rw [set_eq, whenActive, h]
  rfl

/-- A setter as a turn: it records if the span is active. -/
theorem step_set (span : Span) (recording : Bool) (now : Moment) (setter : Setter) :
    let done := if span.isOpen && recording then span.record setter else span.unchanged
    span.step recording now (.set setter) = ⟨done.span, none, done.signals⟩ := by
  show Closed.mk (span.set recording setter).span none (span.set recording setter).signals = _
  rw [set_eq]
  rfl

/-- Setters that record the same are the same turn, in whatever state the span
is and whatever its handle answers. -/
theorem step_set_congr {span : Span} {first second : Setter}
    (h : span.record first = span.record second) (recording : Bool) (now : Moment) :
    span.step recording now (.set first) = span.step recording now (.set second) := by
  rw [step_set, step_set, h]

/-- Setters close nothing. -/
theorem isOpen_set (span : Span) (recording : Bool) (setter : Setter) :
    (span.set recording setter).span.isOpen = span.isOpen := by
  rw [set_eq, whenActive]
  split
  · rw [span_record]
    rfl
  · rfl

/-- Setters send nothing but attributes and warnings. -/
theorem isSetting_of_mem_set {span : Span} {recording : Bool} {setter : Setter}
    {signal : Signal} (h : signal ∈ (span.set recording setter).signals) :
    signal.isSetting = true := by
  rw [set_eq, whenActive] at h
  split at h
  · exact isSetting_of_mem_record h
  · cases h

/-- **Nothing can be done with a closed span.** -/
theorem step_of_closed {span : Span} (h : span.isOpen = false) (recording : Bool) (now : Moment)
    (op : SpanOp) : span.step recording now op = ⟨span, none, []⟩ := by
  cases hop : op.outcome? with
  | some failure => rw [step_of_outcome hop, conclude_of_closed h]
  | none =>
    rcases step_of_no_outcome hop span recording now with ⟨setter, rfl⟩ | heq
    · show (⟨_, none, _⟩ : Closed) = _
      rw [set_of_closed h]
      rfl
    · exact heq

/-- **A turn that leaves the outcome open**: it answers nothing, the span
stays open or closed, and all it sends is attributes and warnings. -/
theorem step_leaves_open {op : SpanOp} (hop : op.outcome? = none) (span : Span)
    (recording : Bool) (now : Moment) :
    (span.step recording now op).summary = none
      ∧ (span.step recording now op).span.isOpen = span.isOpen
      ∧ ∀ signal ∈ (span.step recording now op).signals, signal.isSetting = true := by
  rcases step_of_no_outcome hop span recording now with ⟨setter, rfl⟩ | heq
  · exact ⟨rfl, span.isOpen_set recording setter, fun _ => isSetting_of_mem_set⟩
  · rw [heq]
    exact ⟨rfl, rfl, by simp⟩

/-- **An open span stays open** on a turn without an outcome, and on no
other. -/
theorem isOpen_step (span : Span) (recording : Bool) (now : Moment) (op : SpanOp) :
    (span.step recording now op).span.isOpen = (span.isOpen && op.outcome?.isNone) := by
  cases hop : op.outcome? with
  | some failure =>
    rw [step_of_outcome hop]
    cases h : span.isOpen with
    | true => rw [conclude_of_open h]; rfl
    | false => rw [conclude_of_closed h, h]; rfl
  | none =>
    obtain ⟨-, hopen, -⟩ := step_leaves_open hop span recording now
    rw [hopen]
    exact (Bool.and_true _).symm

/-- Closing a span sets no attribute. -/
theorem attribute_notMem_closingSignals (span : Span) (failure : Option Failure) (now : Moment)
    (key : AttrKey) (value : AttrValue) :
    Signal.attribute key value ∉ span.closingSignals failure now := by
  intro h
  rcases List.mem_append.mp h with h | h
  · rcases List.mem_append.mp h with h | h
    · obtain ⟨sample, -, h⟩ := List.mem_map.mp h
      cases h
    · cases failure with
      | none => cases List.mem_singleton.mp h
      | some failure =>
        simp only [outcomeSignals, List.mem_cons, List.not_mem_nil, or_false] at h
        rcases h with h | h | h <;> cases h
  · cases List.mem_singleton.mp h

/-- **What a turn can do to what is kept**: it is a setter that acts, or
nothing that is kept changes and no attribute is set. -/
theorem step_cases (span : Span) (recording : Bool) (now : Moment) (op : SpanOp) :
    (∃ setter, span.step recording now op = ⟨span.keep setter, none, (span.record setter).signals⟩)
      ∨ ((span.step recording now op).span.usage = span.usage
        ∧ (span.step recording now op).span.toolNames = span.toolNames
        ∧ ∀ key value, Signal.attribute key value ∉ (span.step recording now op).signals) := by
  cases hop : op.outcome? with
  | some failure =>
    right
    rw [step_of_outcome hop]
    cases h : span.isOpen with
    | true =>
      rw [conclude_of_open h]
      exact ⟨rfl, rfl, span.attribute_notMem_closingSignals failure now⟩
    | false =>
      rw [conclude_of_closed h]
      exact ⟨rfl, rfl, by simp⟩
  | none =>
    rcases step_of_no_outcome hop span recording now with ⟨setter, rfl⟩ | heq
    · rw [step_set]
      split
      · exact .inl ⟨setter, by rw [span_record]⟩
      · exact .inr ⟨rfl, rfl, by simp [unchanged]⟩
    · rw [heq]
      exact .inr ⟨rfl, rfl, by simp⟩

theorem continues_step (span : Span) (recording : Bool) (now : Moment) (op : SpanOp) :
    span.Continues (span.step recording now op).span := by
  cases hop : op.outcome? with
  | some failure =>
    rw [step_of_outcome hop]
    exact span.continues_conclude failure now
  | none =>
    rcases step_of_no_outcome hop span recording now with ⟨setter, rfl⟩ | heq
    · exact span.continues_set recording setter
    · rw [heq]
      exact Continues.refl span

/-- **What each turn preserves, a run preserves**: of the span, together
with what has been answered and sent out so far. -/
theorem run_induction (invariant : Span → List (Option CallSummary) → List Signal → Prop)
    (hstep : ∀ (span : Span) (answers : List (Option CallSummary)) (signals : List Signal)
      (recording : Bool) (now : Moment) (op : SpanOp), invariant span answers signals →
      invariant (span.step recording now op).span
        (answers ++ [(span.step recording now op).summary])
        (signals ++ (span.step recording now op).signals))
    (span : Span) (answers : List (Option CallSummary)) (signals : List Signal)
    (h : invariant span answers signals) (turns : List SpanTurn) :
    invariant (span.run turns).span (answers ++ (span.run turns).answers)
      (signals ++ (span.run turns).signals) := by
  induction turns generalizing span answers signals with
  | nil =>
    rw [run_nil, List.append_nil, List.append_nil]
    exact h
  | cons turn turns ih =>
    -- what the first turn adds comes before what the others add
    have hrest := ih _ _ _ (hstep span answers signals turn.recording turn.moment turn.op h)
    rw [List.append_assoc, List.append_assoc] at hrest
    exact hrest

/-- **A run never changes what call the span stands for.** -/
theorem continues_run (span : Span) (turns : List SpanTurn) :
    span.Continues (span.run turns).span := by
  induction turns generalizing span with
  | nil => exact Continues.refl span
  | cons turn turns ih =>
    exact (span.continues_step turn.recording turn.moment turn.op).trans (ih _)

/-- **An open span stays open** in a run as long as no turn has an outcome. -/
theorem isOpen_run (span : Span) (turns : List SpanTurn) :
    (span.run turns).span.isOpen
      = (span.isOpen && turns.all fun turn => turn.op.outcome?.isNone) := by
  induction turns generalizing span with
  | nil => exact (Bool.and_true _).symm
  | cons turn turns ih =>
    rw [run_cons]
    dsimp only
    rw [ih, isOpen_step, Bool.and_assoc, List.all_cons]

/-- **No run does anything to a closed span.** -/
theorem run_of_closed {span : Span} (h : span.isOpen = false) (turns : List SpanTurn) :
    span.run turns = ⟨span, turns.map fun _ => none, []⟩ := by
  induction turns with
  | nil => rfl
  | cons turn turns ih =>
    unfold run
    rw [step_of_closed h]
    dsimp only
    rw [ih]
    rfl

/-- **Turns without an outcome**: none of them answers anything, and the span
stays open or closed. -/
theorem run_leaves_open {turns : List SpanTurn} (h : ∀ turn ∈ turns, turn.op.outcome? = none)
    (span : Span) :
    (span.run turns).span.isOpen = span.isOpen
      ∧ (span.run turns).answers = turns.map (fun _ => none)
      ∧ ∀ signal ∈ (span.run turns).signals, signal.isSetting = true := by
  induction turns generalizing span with
  | nil => exact ⟨rfl, rfl, by simp⟩
  | cons turn turns ih =>
    obtain ⟨hturn, hturns⟩ := List.forall_mem_cons.mp h
    obtain ⟨hsummary, hopen, hsetting⟩ :=
      step_leaves_open hturn span turn.recording turn.moment
    obtain ⟨hlast, hanswers, hsettings⟩ :=
      ih hturns (span.step turn.recording turn.moment turn.op).span
    rw [run_cons]
    dsimp only
    refine ⟨hlast.trans hopen, ?_, fun signal hs => ?_⟩
    · rw [hsummary, hanswers, List.map_cons]
    · exact (List.mem_append.mp hs).elim (hsetting signal) (hsettings signal)

/-- **The first turn with an outcome closes an open span**: it answers the
summary of the span that it finds, and what comes behind it does nothing. -/
theorem run_of_outcome {span : Span} (h : span.isOpen = true) {before : List SpanTurn}
    (hbefore : ∀ turn ∈ before, turn.op.outcome? = none) {turn : SpanTurn}
    {failure : Option Failure} (hturn : turn.op.outcome? = some failure)
    (after : List SpanTurn) :
    let found := (span.run before).span
    span.run (before ++ turn :: after)
      = ⟨{ found with isOpen := false },
          before.map (fun _ => none)
            ++ some (found.summarize failure turn.moment) :: after.map (fun _ => none),
          (span.run before).signals ++ found.closingSignals failure turn.moment⟩ := by
  obtain ⟨hfound, hanswers, -⟩ := run_leaves_open hbefore span
  have hclosed : ({ (span.run before).span with isOpen := false } : Span).isOpen = false := rfl
  dsimp only
  rw [run_append, run_cons, step_of_outcome hturn, conclude_of_open (hfound.trans h), hanswers]
  dsimp only
  rw [run_of_closed hclosed, List.append_nil]

end Span

/-! ## Lives -/

namespace Instrumentor

/-- **The life of a span**: it is opened, takes turns, and is dropped. What
being dropped answers is lost. -/
def life (inst : Instrumentor) (model provider : String) (operation : Option String)
    (opened : Moment) (turns : List SpanTurn) (panicking : Bool) (dropped : Moment) : SpanRun :=
  let start := inst.start model provider operation opened
  let run := start.span.run turns
  let drop := run.span.drop panicking dropped
  ⟨drop.span, run.answers, start.signals ++ run.signals ++ drop.signals⟩

/-- A span is open when it has just been opened, with nothing recorded. -/
theorem span_start (inst : Instrumentor) (model provider : String) (operation : Option String)
    (now : Moment) :
    (inst.start model provider operation now).span.isOpen = true
      ∧ (inst.start model provider operation now).span.usage = none
      ∧ (inst.start model provider operation now).span.toolNames = []
      ∧ (inst.start model provider operation now).span.limits = inst.limits
      ∧ (inst.start model provider operation now).span.metrics = inst.metrics
      ∧ (inst.start model provider operation now).span.openedAt = now :=
  ⟨rfl, rfl, rfl, rfl, rfl, rfl⟩

/-- An identifier that is blank is warned of, and nothing else is sent. -/
theorem eq_warn_of_mem_identifier {field value : String} {signal : Signal}
    (h : signal ∈ (identifier field value).2) :
    ∃ message fields, signal = .log ⟨.warn, message, fields⟩ := by
  unfold identifier at h
  split at h
  · exact ⟨_, _, List.mem_singleton.mp h⟩
  · cases h

/-- **What is sent on opening a span**: warnings, then the identity of the
call. -/
theorem signals_start (inst : Instrumentor) (model provider : String) (operation : Option String)
    (now : Moment) :
    let start := inst.start model provider operation now
    ∃ warnings : List Signal,
      (∀ signal ∈ warnings, ∃ message fields, signal = .log ⟨.warn, message, fields⟩)
      ∧ start.signals = warnings ++ identity start.span.operation start.span.tags :=
  ⟨_, fun _ h => (List.mem_append.mp h).elim eq_warn_of_mem_identifier eq_warn_of_mem_identifier,
    rfl⟩

/-- The only attributes that are set on opening a span are those of its
identity. -/
theorem isIdentity_of_mem_start {inst : Instrumentor} {model provider : String}
    {operation : Option String} {now : Moment} {key : AttrKey} {value : AttrValue}
    (h : Signal.attribute key value ∈ (inst.start model provider operation now).signals) :
    key.isIdentity = true := by
  obtain ⟨warnings, hwarnings, heq⟩ := inst.signals_start model provider operation now
  rw [heq] at h
  rcases List.mem_append.mp h with h | h
  · obtain ⟨message, fields, hlog⟩ := hwarnings _ h
    cases hlog
  · simp only [identity, List.mem_cons, List.not_mem_nil, or_false] at h
    rcases h with h | h | h | h | h
    · cases h
    all_goals
      cases h
      rfl

end Instrumentor
end CallScope
