import CallScope.Proofs.ClosedOnce
import CallScope.Proofs.Shown

/-!
# What a span keeps is what is shown

Usage and the names of tool calls are kept twice: in the span, from where
they go into the summary, and by the backend, which shows what it was told
last. Neither asks the other, and still they agree whenever one looks.

The reason is that a turn either is a setter that acts, which keeps what it
shows and shows what it keeps, or touches neither side
(`Span.step_cases`). `Mirrored` says that the two agree, and `Reported` that
the summary agrees with both. Each turn preserves them, and so does every
run.

Which turn it is that answers the summary, and with which status, is for the
turns to say: it is the first that has an outcome
(`Span.ClosedByOutcome`).
-/

namespace CallScope

/-! ## What should be shown -/

/-- **A count as it is shown**: the largest signed word stands for all
counts beyond it. -/
def cappedCount (n : Nat) : AttrValue := .int (Int64.ofInt (min n (2 ^ 63 - 1)))

theorem AttrValue.ofCount_eq (n : Nat) : AttrValue.ofCount n = cappedCount n := by
  unfold ofCount cappedCount saturateSigned maxSigned
  rw [if_neg (by omega)]
  split
  · rw [Int.min_eq_left (by omega)]
  · rw [Int.min_eq_right (by omega)]

/-- Whether the values under a key are also kept in the span. -/
def AttrKey.isKept : AttrKey → Bool
  | .promptTokens | .completionTokens | .totalTokens => true
  | .toolCallCount | .toolCallNames => true
  | _ => false

/-- **What should be shown of what a span keeps.** -/
def Span.kept? (span : Span) : AttrKey → Option AttrValue
  | .promptTokens => span.usage.map fun usage => cappedCount usage.prompt.toNat
  | .completionTokens => span.usage.map fun usage => cappedCount usage.completion.toNat
  | .totalTokens => span.usage.map fun usage => cappedCount usage.total.toNat
  | .toolCallCount =>
    if span.toolNames.isEmpty then none else some (cappedCount span.toolNames.length)
  | .toolCallNames =>
    if span.toolNames.isEmpty then none
    else some (.text (String.intercalate "," span.toolNames))
  | _ => none

namespace Span

/-- What should be shown of a span depends on what it keeps alone. -/
theorem kept?_congr {first second : Span} (husage : first.usage = second.usage)
    (hnames : first.toolNames = second.toolNames) (key : AttrKey) :
    first.kept? key = second.kept? key := by
  unfold kept?
  rw [husage, hnames]

/-- **A setter keeps the usage that it shows**, and shows nothing else of
usage. -/
theorem kept?_keep_of_isUsage (span : Span) (setter : Setter) {key : AttrKey}
    (h : key.isUsage = true) :
    (span.keep setter).kept? key
      = (shown? (span.record setter).signals key.text).or (span.kept? key) := by
  rw [shown?_record_of_isUsage span setter h]
  unfold keep
  cases setter.usage? with
  | none => cases key <;> first | rfl | cases h
  | some usage =>
    obtain ⟨hprompt, hcompletion, htotal⟩ := shown?_usageSignals usage
    rw [Option.bind_some]
    cases key with
    | promptTokens =>
      rw [hprompt]
      exact congrArg some (AttrValue.ofCount_eq _).symm
    | completionTokens =>
      rw [hcompletion]
      exact congrArg some (AttrValue.ofCount_eq _).symm
    | totalTokens =>
      rw [htotal]
      exact congrArg some (AttrValue.ofCount_eq _).symm
    | _ => cases h

/-- **A setter keeps the names that it shows**, and shows nothing else of
names. -/
theorem kept?_keep_of_calls (span : Span) (setter : Setter) {key : AttrKey}
    (h : key = .toolCallCount ∨ key = .toolCallNames) :
    (span.keep setter).kept? key
      = (shown? (span.record setter).signals key.text).or (span.kept? key) := by
  obtain ⟨hcount, hnames⟩ := shown?_callSignals span.limits setter.calls
  have hcall : key.isCall = true := by
    rcases h with rfl | rfl
    · rfl
    · rfl
  rw [shown?_record_of_isCall span setter hcall]
  unfold keep
  -- a list without calls leaves both sides as they are
  by_cases hempty : setter.calls.isEmpty = true
  · rw [if_pos hempty, if_pos hempty]
    rcases h with rfl | rfl
    · rfl
    · rfl
  · have hkept : ¬(callNames setter.calls).isEmpty = true := by
      unfold callNames
      rw [List.isEmpty_map]
      exact hempty
    rw [if_neg hempty, if_neg hempty]
    rcases h with rfl | rfl
    · rw [hcount, AttrValue.ofCount_eq]
      show (if (callNames setter.calls).isEmpty then none else _) = _
      rw [if_neg hkept, callNames, List.length_map]
      rfl
    · rw [hnames]
      exact if_neg hkept

end Span

/-! ## The two sides of a run -/

/-- **What a span keeps is what is shown.** -/
def Mirrored (span : Span) (signals : List Signal) : Prop :=
  ∀ key : AttrKey, key.isKept = true → shown? signals key.text = span.kept? key

/-- Where nothing is kept and nothing shown, the two sides agree. -/
theorem mirrored_of_nothing {span : Span} {signals : List Signal} (husage : span.usage = none)
    (hnames : span.toolNames = [])
    (h : ∀ key : AttrKey, key.isKept = true → ∀ value, Signal.attribute key value ∉ signals) :
    Mirrored span signals := by
  intro key hkey
  rw [shown?_eq_none (h key hkey)]
  unfold Span.kept?
  rw [husage, hnames]
  cases key <;> rfl

/-- **A turn preserves that the two sides agree.** -/
theorem mirrored_step {span : Span} {signals : List Signal} (h : Mirrored span signals)
    (recording : Bool) (now : Moment) (op : SpanOp) :
    Mirrored (span.step recording now op).span
      (signals ++ (span.step recording now op).signals) := by
  intro key hkey
  rw [shown?_append, h key hkey]
  rcases span.step_cases recording now op with ⟨setter, heq⟩ | ⟨husage, hnames, hsent⟩
  · rw [heq]
    have hkind : key.isUsage = true ∨ key = .toolCallCount ∨ key = .toolCallNames := by
      cases key <;>
        first | exact .inl rfl | exact .inr (.inl rfl) | exact .inr (.inr rfl) | cases hkey
    rcases hkind with husage | hcalls
    · exact (span.kept?_keep_of_isUsage setter husage).symm
    · exact (span.kept?_keep_of_calls setter hcalls).symm
  · rw [shown?_eq_none (hsent key), Option.none_or]
    exact Span.kept?_congr husage.symm hnames.symm key

/-! ## What is reported -/

/-- The statuses that are set by signals. -/
def statuses (signals : List Signal) : List SpanStatus :=
  (signals.filterMap Signal.call?).filterMap HandleCall.status?

theorem statuses_append (first second : List Signal) :
    statuses (first ++ second) = statuses first ++ statuses second := by
  unfold statuses
  rw [List.filterMap_append, List.filterMap_append]

/-- Signals that leave the outcome open set no status. -/
theorem statuses_interim {signals : List Signal}
    (h : ∀ signal ∈ signals, signal.isInterim = true) : statuses signals = [] :=
  HandleCall.statuses_interim (isInterim_calls h)

/-- **A summary tells of a span** what it keeps and which call it stands
for. -/
structure CallSummary.Tells (summary : CallSummary) (span : Span) : Prop where
  operation : summary.operation = span.operation
  model : summary.model = span.model
  provider : summary.provider = span.provider
  usage : summary.usage = span.usage
  toolCalls : summary.toolCalls = span.toolNames

/-- **What a span has reported**: nothing as long as it is open, and then one
summary that tells of it, together with one status, the same in the summary
as on the handle. -/
structure Reported (span : Span) (answers : List (Option CallSummary)) (signals : List Signal) :
    Prop where
  pending : span.isOpen = true → answers.filterMap id = [] ∧ statuses signals = []
  closed : span.isOpen = false → ∃ summary : CallSummary, answers.filterMap id = [summary]
    ∧ statuses signals = [summary.status] ∧ summary.Tells span

/-- **A turn preserves what has been reported.** -/
theorem reported_step {span : Span} {answers : List (Option CallSummary)} {signals : List Signal}
    (h : Reported span answers signals) (recording : Bool) (now : Moment) (op : SpanOp) :
    Reported (span.step recording now op).span
      (answers ++ [(span.step recording now op).summary])
      (signals ++ (span.step recording now op).signals) := by
  cases hopen : span.isOpen with
  | false =>
    obtain ⟨summary, hanswers, hstatuses, htells⟩ := h.closed hopen
    rw [Span.step_of_closed hopen]
    refine ⟨fun hclosed => Bool.noConfusion (hopen.symm.trans hclosed), fun _ => ?_⟩
    refine ⟨summary, ?_, ?_, htells⟩
    · rw [List.filterMap_append, hanswers]
      rfl
    · rw [List.append_nil, hstatuses]
  | true =>
    obtain ⟨hanswers, hstatuses⟩ := h.pending hopen
    cases hop : op.outcome? with
    | some failure =>
      -- the summary and the status come from the same outcome
      rw [Span.step_of_outcome hop, Span.conclude_of_open hopen]
      refine ⟨fun hopen => Bool.noConfusion hopen, fun _ => ?_⟩
      refine ⟨span.summarize failure now, ?_, ?_, ⟨rfl, rfl, rfl, rfl, rfl⟩⟩
      · rw [List.filterMap_append, hanswers]
        rfl
      · rw [statuses_append, hstatuses, List.nil_append, statuses, Span.calls_closingSignals]
        cases failure <;> rfl
    | none =>
      obtain ⟨hsummary, hstays, hsetting⟩ := Span.step_leaves_open hop span recording now
      rw [hsummary]
      refine ⟨fun _ => ⟨?_, ?_⟩, fun hclosed => ?_⟩
      · rw [List.filterMap_append, hanswers]
        rfl
      · rw [statuses_append, hstatuses, statuses_interim fun signal hs =>
          Signal.isInterim_of_isSetting (hsetting signal hs)]
        rfl
      · rw [hstays, hopen] at hclosed
        cases hclosed

/-! ## What closes a span -/

/-- **A span is closed by the first of its turns that has an outcome**, given
what had been sent out before these turns. -/
structure Span.ClosedByOutcome (span : Span) (sent : List Signal) (turns : List SpanTurn) :
    Prop where
  /-- It is closed if and only if one of them has an outcome. -/
  closed_iff : (span.run turns).span.isOpen = false
    ↔ ∃ turn ∈ turns, turn.op.outcome?.isSome = true
  /-- The first that has one answers the summary, and no other answers
  anything. The summary has the status of that outcome, which is the one that
  is set, and tells of the span as it is from then on. -/
  closing : ∀ before turn after failure, turns = before ++ turn :: after →
    (∀ earlier ∈ before, earlier.op.outcome? = none) → turn.op.outcome? = some failure →
    ∃ summary : CallSummary,
      (span.run turns).answers
          = before.map (fun _ => none) ++ some summary :: after.map (fun _ => none)
        ∧ summary.status = Span.statusOf failure
        ∧ statuses (sent ++ (span.run turns).signals) = [summary.status]
        ∧ summary.Tells (span.run turns).span

/-- An open span of which no status was set is closed by its first outcome. -/
theorem Span.closedByOutcome {span : Span} (h : span.isOpen = true) {sent : List Signal}
    (hsent : statuses sent = []) (turns : List SpanTurn) : span.ClosedByOutcome sent turns := by
  refine ⟨?_, ?_⟩
  · rw [isOpen_run, h, Bool.true_and, List.all_eq_false]
    simp only [Bool.not_eq_true, Option.isNone_eq_false_iff]
  · rintro before turn after failure rfl hbefore hturn
    obtain ⟨-, -, hsetting⟩ := run_leaves_open hbefore span
    have hinterim : statuses (span.run before).signals = [] :=
      statuses_interim fun signal hs => Signal.isInterim_of_isSetting (hsetting signal hs)
    rw [run_of_outcome h hbefore hturn]
    refine ⟨_, rfl, rfl, ?_, ⟨rfl, rfl, rfl, rfl, rfl⟩⟩
    rw [statuses_append, statuses_append, hsent, hinterim, statuses, calls_closingSignals]
    cases failure <;> rfl

/-! ## Any state of a run -/

/-- **Agreement of a span with what it has answered and sent out.** -/
structure Agreement (span : Span) (answers : List (Option CallSummary)) (signals : List Signal) :
    Prop where
  /-- Usage is kept if and only if all three counts are shown. -/
  usage_iff : span.usage.isSome = true
    ↔ (shown? signals "llm.token_count.prompt").isSome = true
      ∧ (shown? signals "llm.token_count.completion").isSome = true
      ∧ (shown? signals "llm.token_count.total").isSome = true
  /-- Where it is kept, the counts are its own. -/
  usage : ∀ usage, span.usage = some usage →
    shown? signals "llm.token_count.prompt" = some (cappedCount usage.prompt.toNat)
      ∧ shown? signals "llm.token_count.completion" = some (cappedCount usage.completion.toNat)
      ∧ shown? signals "llm.token_count.total" = some (cappedCount usage.total.toNat)
  /-- Names are kept if and only if their number and the names are shown. -/
  toolNames_iff : span.toolNames ≠ []
    ↔ (shown? signals "llm.tool_calls.count").isSome = true
      ∧ (shown? signals "llm.tool_calls.names").isSome = true
  /-- Where they are kept, they are the ones that are shown. -/
  toolNames : span.toolNames ≠ [] →
    shown? signals "llm.tool_calls.count" = some (cappedCount span.toolNames.length)
      ∧ shown? signals "llm.tool_calls.names"
        = some (.text (String.intercalate "," span.toolNames))
  /-- The summary tells of the span, in whatever later state, and of the
  status that was set. -/
  reported : Reported span answers signals
  /-- A closed span changes no more. -/
  inert : span.isOpen = false → ∀ turns,
    (span.run turns).span = span ∧ (span.run turns).signals = []

/-- The two sides agree on whether there is anything, and on what it is. -/
theorem agreement_of_mirrored {span : Span} {answers : List (Option CallSummary)}
    {signals : List Signal} (hmirrored : Mirrored span signals)
    (hreported : Reported span answers signals) : Agreement span answers signals := by
  have hprompt : shown? signals "llm.token_count.prompt"
      = span.usage.map fun usage => cappedCount usage.prompt.toNat := hmirrored .promptTokens rfl
  have hcompletion : shown? signals "llm.token_count.completion"
      = span.usage.map fun usage => cappedCount usage.completion.toNat :=
    hmirrored .completionTokens rfl
  have htotal : shown? signals "llm.token_count.total"
      = span.usage.map fun usage => cappedCount usage.total.toNat := hmirrored .totalTokens rfl
  have hcount : shown? signals "llm.tool_calls.count"
      = if span.toolNames.isEmpty then none else some (cappedCount span.toolNames.length) :=
    hmirrored .toolCallCount rfl
  have hnames : shown? signals "llm.tool_calls.names"
      = if span.toolNames.isEmpty then none
        else some (.text (String.intercalate "," span.toolNames)) := hmirrored .toolCallNames rfl
  refine ⟨?_, fun usage husage => ?_, ?_, fun hne => ?_, hreported, fun hclosed turns => ?_⟩
  · rw [hprompt, hcompletion, htotal, Option.isSome_map, Option.isSome_map, Option.isSome_map,
      and_self, and_self]
  · rw [hprompt, hcompletion, htotal, husage]
    exact ⟨rfl, rfl, rfl⟩
  · rw [hcount, hnames]
    cases span.toolNames with
    | nil => exact ⟨fun hne => absurd rfl hne, fun hsome => Bool.noConfusion hsome.1⟩
    | cons name names => exact ⟨fun _ => ⟨rfl, rfl⟩, fun _ => List.cons_ne_nil name names⟩
  · have hkept : ¬span.toolNames.isEmpty = true := fun h => hne (List.isEmpty_iff.mp h)
    rw [hcount, hnames, if_neg hkept, if_neg hkept]
    exact ⟨rfl, rfl⟩
  · rw [Span.run_of_closed hclosed]
    exact ⟨rfl, rfl⟩

namespace Instrumentor

/-- Opening a span shows nothing of what it will keep. -/
theorem mirrored_start (inst : Instrumentor) (model provider : String)
    (operation : Option String) (now : Moment) :
    let start := inst.start model provider operation now
    Mirrored start.span start.signals := by
  refine mirrored_of_nothing rfl rfl (fun key hkey value hmem => ?_)
  have hidentity := isIdentity_of_mem_start hmem
  cases key <;> first | exact Bool.noConfusion hkey | exact Bool.noConfusion hidentity

/-- Opening a span reports nothing. -/
theorem reported_start (inst : Instrumentor) (model provider : String)
    (operation : Option String) (now : Moment) :
    let start := inst.start model provider operation now
    Reported start.span [] start.signals :=
  ⟨fun _ => ⟨rfl, statuses_interim fun _ => isInterim_of_mem_start⟩, fun h => by cases h⟩

/-- **What a span keeps, what is shown of it and what it reports agree** in
every state that it comes to, and it stands for the same call in all of
them. -/
theorem run_agreement (inst : Instrumentor) (model provider : String)
    (operation : Option String) (opened : Moment) (turns : List SpanTurn) :
    let start := inst.start model provider operation opened
    let run := start.span.run turns
    Agreement run.span run.answers (start.signals ++ run.signals)
      ∧ start.span.Continues run.span
      ∧ start.span.ClosedByOutcome start.signals turns := by
  dsimp only
  obtain ⟨hopen, -⟩ := inst.span_start model provider operation opened
  have hmirrored := Span.run_induction (fun span _ signals => Mirrored span signals)
    (fun _ _ _ recording now op h => mirrored_step h recording now op) _ [] _
    (inst.mirrored_start model provider operation opened) turns
  have hreported := Span.run_induction Reported
    (fun _ _ _ recording now op h => reported_step h recording now op) _ _ _
    (inst.reported_start model provider operation opened) turns
  exact ⟨agreement_of_mirrored hmirrored hreported, Span.continues_run _ turns,
    Span.closedByOutcome hopen (statuses_interim fun _ => isInterim_of_mem_start) turns⟩

end Instrumentor
end CallScope
