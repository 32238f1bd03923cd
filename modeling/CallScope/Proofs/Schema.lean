import CallScope.Proofs.Agreement
import CallScope.Proofs.SetterKeys
import CallScope.Proofs.Tracing

/-!
# The schema of attributes and samples

Whatever is done with a span, what its handle and the instruments are told
follows one schema. Opening it sets four attributes that say which call it is.
They are never set again, and the names in them are the ones that the span
keeps, none of them blank, and that every sample is tagged with. All later
attributes tell of usage, input, output, tool calls or parameters; every key
has a kind of values (`AttrKey.kind`) and is given no others.

The schema of a single signal (`Signal.Conforms`) looks at nothing of a span
but its limits and its tags. Since turns leave both alone, it is enough that
every turn conforms.
-/

namespace CallScope

open Json Decode

/-! ## Kinds of values -/

/-- **The kinds of values** that attributes have. -/
inductive ValueKind where
  /-- A signed word that is not negative. -/
  | count
  | integer
  | double
  | truth
  /-- A text, of so many characters at most if there is a limit. -/
  | text (limit : Option Nat)

/-- Whether a value is of a kind. -/
def ValueKind.admits : ValueKind → AttrValue → Bool
  | .count, .int n => decide (0 ≤ n.toInt)
  | .integer, .int _ => true
  | .double, .double _ => true
  | .truth, .bool _ => true
  | .text limit, .text s => limit.all fun n => decide (s.toList.length ≤ n)
  | _, _ => false

/-- **The kind of the values under a key.** -/
def AttrKey.kind (limits : Limits) : AttrKey → ValueKind
  | .promptTokens | .completionTokens | .totalTokens | .toolCallCount => .count
  | .maxTokens | .topK => .integer
  | .temperature | .topP => .double
  | .stream => .truth
  | key => .text (key.charLimit? limits)

/-- **A count is never negative**, however large it is. -/
theorem ValueKind.admits_ofCount (n : Nat) : count.admits (.ofCount n) = true := by
  have hnonneg : 0 ≤ min (n : Int) (2 ^ 63 - 1) :=
    Int.le_min.mpr ⟨Int.natCast_nonneg n, by decide⟩
  have hlt : min (n : Int) (2 ^ 63 - 1) < 2 ^ 63 :=
    Int.lt_of_le_of_lt (Int.min_le_right _ _) (by decide)
  rw [AttrValue.ofCount_eq]
  refine decide_eq_true ?_
  rw [Int64.toInt_ofInt_of_le (by omega) hlt]
  exact hnonneg

/-- An excerpt is within its limit. -/
theorem ValueKind.admits_excerpt (limit : Nat) (s : String) :
    (text (some limit)).admits (.text (Text.excerpt limit s)) = true := by
  refine decide_eq_true ?_
  rw [Text.excerpt, String.toList_ofList]
  exact List.length_take_le limit s.toList

/-- **A parameter is of the kind of its key**, whatever it came as. -/
theorem Parameter.admits_of_coerce {p : Parameter} {raw : Value} {value : AttrValue}
    (h : p.coerce raw = .ok value) (limits : Limits) : (p.key.kind limits).admits value = true := by
  have horFail : ∀ {expected : String} {read : Option AttrValue},
      p.orFail expected raw read = .ok value → read = some value := by
    intro expected read hread
    cases read with
    | none => cases hread
    | some v =>
      cases hread
      rfl
  have hdouble : p.orFail "float" raw ((double? raw).map .double) = .ok value →
      ValueKind.double.admits value = true := by
    intro h
    obtain ⟨x, -, rfl⟩ := Option.map_eq_some_iff.mp (horFail h)
    rfl
  have hint : p.orFail "int" raw ((int? raw).map .int) = .ok value →
      ValueKind.integer.admits value = true := by
    intro h
    obtain ⟨n, -, rfl⟩ := Option.map_eq_some_iff.mp (horFail h)
    rfl
  cases p with
  | temperature => exact hdouble h
  | topP => exact hdouble h
  | maxTokens => exact hint h
  | topK => exact hint h
  | stream =>
    cases h
    rfl

/-! ## Setters -/

/-- **Every attribute among some signals is of the kind of its key.** -/
def OfKind (limits : Limits) (signals : List Signal) : Prop :=
  ∀ key value, Signal.attribute key value ∈ signals → (key.kind limits).admits value = true

namespace OfKind

variable {limits : Limits}

theorem nil : OfKind limits [] := fun _ _ h => by cases h

theorem append {first second : List Signal} (h : OfKind limits first) (h' : OfKind limits second) :
    OfKind limits (first ++ second) :=
  fun key value hmem => (List.mem_append.mp hmem).elim (h key value) (h' key value)

theorem singleton {key : AttrKey} {value : AttrValue}
    (h : (key.kind limits).admits value = true) : OfKind limits [.attribute key value] := by
  intro other value hmem
  cases List.mem_singleton.mp hmem
  exact h

theorem count {key : AttrKey} (h : key.kind limits = .count) (n : Nat) :
    OfKind limits [.attribute key (.ofCount n)] :=
  singleton (h ▸ ValueKind.admits_ofCount n)

theorem usageSignals (usage : Usage) : OfKind limits (Span.usageSignals usage) :=
  (count rfl usage.prompt.toNat).append
    ((count rfl usage.completion.toNat).append (count rfl usage.total.toNat))

theorem callSignals (calls : List (Nat × OpenAiCall)) :
    OfKind limits (Span.callSignals limits calls) := by
  refine append (fun key value hmem => ?_)
    ((count rfl calls.length).append (singleton rfl))
  obtain ⟨entry, -, hmem⟩ := List.mem_flatMap.mp hmem
  split at hmem
  · rcases List.mem_cons.mp hmem with hmem | hmem
    · cases hmem
      rfl
    · obtain ⟨arguments, -, heq⟩ := Option.map_eq_some_iff.mp (Option.mem_toList.mp hmem)
      cases heq
      exact ValueKind.admits_excerpt _ arguments
  · cases hmem

/-- **A setter gives every key values of its kind.** -/
theorem record (span : Span) (setter : Setter) :
    OfKind span.limits (span.record setter).signals := by
  intro key value hmem
  cases Setter.Shows.of_mem_record hmem with
  | @usage u key value h hmem => exact usageSignals u key value hmem
  | input h text => exact ValueKind.admits_excerpt _ text
  | output h text => exact ValueKind.admits_excerpt _ text
  | parameter h hvalue => exact Parameter.admits_of_coerce hvalue _
  | calls h hmem => exact callSignals setter.calls key value hmem

end OfKind

/-! ## Signals that conform -/

/-- What a sample is tagged with. -/
def Sample.tags? : Sample → Option MetricTags
  | .describe _ _ _ _ => none
  | .counter _ _ tags => some tags
  | .histogram _ _ tags => some tags

/-- **The schema of what is sent after a span was opened**: an attribute tells
of usage, of input, output or parameters, or of tool calls, the single ones
within their limit, and its value is of the kind of its key; and a sample has
the tags of the span. -/
def Signal.Conforms (span : Span) : Signal → Prop
  | .handle (.setAttribute key value) =>
    (key.isUsage || key.isAside || key.isCall) = true
      ∧ key.isWithin span.limits.indexedToolCalls.toNat = true
      ∧ (key.kind span.limits).admits value = true
  | .metric sample => sample.tags? = some span.tags
  | _ => True

namespace Span

/-- What a setter sets tells of usage, of input, output or parameters, or of
tool calls. -/
theorem key_of_mem_record {span : Span} {setter : Setter} {key : AttrKey} {value : AttrValue}
    (h : Signal.attribute key value ∈ (span.record setter).signals) :
    (key.isUsage || key.isAside || key.isCall) = true := by
  have hfamily := AttrKey.family?_of_mem_record h
  cases key <;> first | rfl | cases hfamily

/-- **A setter conforms.** -/
theorem conforms_record (span : Span) (setter : Setter) :
    ∀ signal ∈ (span.record setter).signals, signal.Conforms span := by
  intro signal h
  have hsetting := isSetting_of_mem_record h
  cases signal with
  | handle call =>
    cases call with
    | setAttribute key value =>
      exact ⟨key_of_mem_record h, isWithin_of_mem_record h, OfKind.record span setter key value h⟩
    | _ => exact True.intro
  | metric sample => cases hsetting
  | log record => exact True.intro

/-- **Closing a span conforms.** -/
theorem conforms_closingSignals (span : Span) (failure : Option Failure) (now : Moment) :
    ∀ signal ∈ span.closingSignals failure now, signal.Conforms span := by
  intro signal h
  cases signal with
  | handle call =>
    cases call with
    | setAttribute key value => exact absurd h (attribute_notMem_closingSignals _ _ _ key value)
    | _ => exact True.intro
  | metric sample =>
    have hsample : sample ∈ span.samples now := by
      rw [← span.samples_closingSignals failure now]
      exact List.mem_filterMap.mpr ⟨_, h, rfl⟩
    unfold samples MetricNames.bookCall MetricNames.bookTokens at hsample
    rcases List.mem_cons.mp hsample with rfl | hsample
    · rfl
    · rcases List.mem_cons.mp hsample with rfl | hsample
      · rfl
      · split at hsample
        · split at hsample
          · cases List.mem_singleton.mp hsample
            rfl
          · cases hsample
        · cases hsample
  | log record => exact True.intro

/-- The schema looks at nothing of a span that changes. -/
theorem Continues.conforms {before after : Span} (h : before.Continues after) {signal : Signal}
    (hsignal : signal.Conforms after) : signal.Conforms before := by
  cases signal with
  | handle call =>
    cases call with
    | setAttribute key value =>
      unfold Signal.Conforms at hsignal ⊢
      rw [← h.limits]
      exact hsignal
    | _ => exact True.intro
  | metric sample =>
    unfold Signal.Conforms at hsignal ⊢
    rw [← h.tags]
    exact hsignal
  | log record => exact True.intro

/-- Closing a span conforms, whether it is open or not. -/
theorem conforms_conclude (span : Span) (failure : Option Failure) (now : Moment) :
    ∀ signal ∈ (span.conclude failure now).signals, signal.Conforms span := by
  cases hopen : span.isOpen with
  | true =>
    rw [conclude_of_open hopen]
    exact span.conforms_closingSignals failure now
  | false =>
    rw [conclude_of_closed hopen]
    exact List.forall_mem_nil _

/-- **Every turn conforms.** -/
theorem conforms_step (span : Span) (recording : Bool) (now : Moment) (op : SpanOp) :
    ∀ signal ∈ (span.step recording now op).signals, signal.Conforms span := by
  cases hop : op.outcome? with
  | some failure =>
    rw [step_of_outcome hop]
    exact span.conforms_conclude failure now
  | none =>
    rcases step_of_no_outcome hop span recording now with ⟨setter, rfl⟩ | heq
    · rw [step_set]
      split
      · exact span.conforms_record setter
      · exact List.forall_mem_nil _
    · rw [heq]
      exact List.forall_mem_nil _

/-- **Every run conforms.** -/
theorem conforms_run (span : Span) (turns : List SpanTurn) :
    ∀ signal ∈ (span.run turns).signals, signal.Conforms span := by
  induction turns generalizing span with
  | nil => exact List.forall_mem_nil _
  | cons turn turns ih =>
    intro signal h
    rcases List.mem_append.mp h with h | h
    · exact span.conforms_step turn.recording turn.moment turn.op signal h
    · exact (span.continues_step turn.recording turn.moment turn.op).conforms (ih _ signal h)

/-- **No turn finds or leaves the span as another call's.** -/
theorem continues_passages (span : Span) (turns : List SpanTurn) :
    ∀ p ∈ span.passages turns, span.Continues p.found ∧ span.Continues p.done.span := by
  induction turns generalizing span with
  | nil => exact List.forall_mem_nil _
  | cons turn turns ih =>
    have hfirst := span.continues_step turn.recording turn.moment turn.op
    refine List.forall_mem_cons.mpr ⟨⟨Continues.refl span, hfirst⟩, fun p hp => ?_⟩
    obtain ⟨hfound, hdone⟩ := ih _ p hp
    exact ⟨hfirst.trans hfound, hfirst.trans hdone⟩

end Span

/-! ## Names -/

namespace Instrumentor

/-- No identifier is blank. -/
theorem isBlank_identifier (field value : String) :
    Text.isBlank (identifier field value).1 = false := by
  unfold identifier
  split
  · exact (by decide : Text.isBlank unknownName = false)
  · rename_i h
    exact Bool.eq_false_iff.mpr h

/-- No operation is blank, whatever name it was given. -/
theorem isBlank_operationName (provider : String) (operation : Option String) :
    Text.isBlank (operationName provider operation) = false := by
  have hdefault : Text.isBlank (defaultOperation provider) = false := by
    unfold defaultOperation Text.isBlank
    rw [String.toList_append, String.toList_append]
    rfl
  unfold operationName
  split
  · split
    · exact hdefault
    · rename_i h
      exact Bool.eq_false_iff.mpr h
  · exact hdefault

end Instrumentor

/-! ## Lives -/

/-- **What a span sends follows the schema**: what it sends on being opened,
and what it sends later. -/
structure FollowsSchema (limits : Limits) (span : Span) (first later : List Signal) : Prop where
  /-- No name that the span keeps is blank. -/
  named : Text.isBlank span.model = false ∧ Text.isBlank span.provider = false
    ∧ Text.isBlank span.operation = false
  /-- On being opened, the handle is told the names, and nothing else. -/
  opening : first.filterMap Signal.call? = [
    .start span.operation .client,
    .setAttribute .spanKind (.text "LLM"),
    .setAttribute .model (.text span.model),
    .setAttribute .provider (.text span.provider),
    .setAttribute .spanType (.text "llm")]
  /-- None of these attributes is set again. -/
  once : ∀ key value, Signal.attribute key value ∈ later → key.isIdentity = false
  /-- Later attributes tell of usage, of input, output or parameters, or of
  tool calls, the single ones below the limit. -/
  keys : ∀ key value, Signal.attribute key value ∈ later →
    (key.isUsage || key.isAside || key.isCall) = true
      ∧ key.isWithin limits.indexedToolCalls.toNat = true
  /-- Every value is of the kind of its key. -/
  values : ∀ key value, Signal.attribute key value ∈ first ++ later →
    (key.kind limits).admits value = true
  /-- Every sample is tagged with the names that the span keeps. -/
  samples : ∀ sample ∈ (first ++ later).filterMap Signal.sample?,
    sample.tags? = some ⟨span.model, span.provider⟩

namespace Instrumentor

/-- On being opened, a handle is told the identity of the call, and nothing
else. -/
theorem calls_start (inst : Instrumentor) (model provider : String) (operation : Option String)
    (opened : Moment) :
    let start := inst.start model provider operation opened
    start.signals.filterMap Signal.call? = [
      .start start.span.operation .client,
      .setAttribute .spanKind (.text "LLM"),
      .setAttribute .model (.text start.span.model),
      .setAttribute .provider (.text start.span.provider),
      .setAttribute .spanType (.text "llm")] := by
  intro start
  obtain ⟨warnings, hwarnings, heq⟩ := inst.signals_start model provider operation opened
  have hnone : warnings.filterMap Signal.call? = [] :=
    List.filterMap_eq_nil_iff.mpr fun signal hs => by
      obtain ⟨message, fields, rfl⟩ := hwarnings signal hs
      rfl
  rw [show start.signals = _ from heq, List.filterMap_append, hnone]
  rfl

/-- **A span follows the schema** if all that it sends later conforms. -/
theorem followsSchema_of_conforms (inst : Instrumentor) (model provider : String)
    (operation : Option String) (opened : Moment) {later : List Signal} :
    let start := inst.start model provider operation opened
    (∀ signal ∈ later, signal.Conforms start.span) →
      FollowsSchema inst.limits start.span start.signals later := by
  intro start h
  have hopening := inst.calls_start model provider operation opened
  refine ⟨⟨isBlank_identifier _ _, isBlank_identifier _ _, isBlank_operationName _ _⟩, hopening,
    fun key value hmem => ?_, fun key value hmem => ⟨(h _ hmem).1, (h _ hmem).2.1⟩,
    fun key value hmem => ?_, fun sample hmem => ?_⟩
  · have hkey := (h _ hmem).1
    cases key <;> first | rfl | cases hkey
  · rcases List.mem_append.mp hmem with hmem | hmem
    · -- what is set on opening are texts without a limit
      have hcall : HandleCall.setAttribute key value ∈ start.signals.filterMap Signal.call? :=
        List.mem_filterMap.mpr ⟨_, hmem, rfl⟩
      rw [hopening] at hcall
      simp only [List.mem_cons, List.not_mem_nil, or_false] at hcall
      rcases hcall with hcall | hcall | hcall | hcall | hcall
      · cases hcall
      all_goals
        cases hcall
        rfl
    · exact (h _ hmem).2.2
  · rw [List.filterMap_append, samples_interim fun _ => isInterim_of_mem_start,
      List.nil_append] at hmem
    obtain ⟨signal, hs, hsample⟩ := List.mem_filterMap.mp hmem
    cases signal with
    | metric other =>
      cases hsample
      exact h _ hs
    | _ => cases hsample

/-- **Every life follows the schema**, whatever the configuration, the names
and the turns, and the names that the span keeps are the same before and after
every turn and at its end. -/
theorem life_schema (config : Config) (model provider : String) (operation : Option String)
    (opened : Moment) (turns : List SpanTurn) (panicking : Bool) (dropped : Moment) :
    let inst := ofConfig config
    let start := inst.start model provider operation opened
    let run := start.span.run turns
    let drop := run.span.drop panicking dropped
    let later := run.signals ++ drop.signals
    (inst.life model provider operation opened turns panicking dropped).signals
        = start.signals ++ later
      ∧ FollowsSchema config.limits start.span start.signals later
      ∧ (∀ p ∈ start.span.passages turns,
        start.span.Continues p.found ∧ start.span.Continues p.done.span)
      ∧ start.span.Continues drop.span := by
  intro inst start run drop later
  have hrun := start.span.continues_run turns
  refine ⟨List.append_assoc _ _ _,
    inst.followsSchema_of_conforms model provider operation opened fun signal h => ?_,
    start.span.continues_passages turns, hrun.trans (run.span.continues_conclude _ dropped)⟩
  rcases List.mem_append.mp h with h | h
  · exact start.span.conforms_run turns signal h
  · exact hrun.conforms (run.span.conforms_conclude _ dropped signal h)

end Instrumentor
end CallScope
