import CallScope.Proofs.Limited

/-!
# What a setter does to an active span

A setter acts on an active span and on no other, wherever it asks whether the
span is active (`Span.set_eq`). Every setter comes down to three things: usage
that it stores, tool calls that it records, and *asides* – attributes that the
span keeps nothing of, and warnings. This module says for each setter which
usage (`Setter.usage?`) and which calls (`Setter.calls`) it comes down to, and
proves that it does nothing else (`Span.record_eq`).

Whatever is to be shown of all setters at once follows from that equation,
so that no other proof has to look at the setters one by one.
-/

namespace CallScope

open Json Decode

/-! ## Kinds of signals -/

/-- **Whether a span keeps nothing of the values under a key**: they are
shown and forgotten. Usage and tool calls are kept as well as shown, and the
identity of the call is settled when the span is opened. -/
def AttrKey.isAside : AttrKey → Bool
  | .inputMessage | .outputMessage => true
  | .temperature | .maxTokens | .topP | .topK | .stream => true
  | _ => false

/-- Whether the values under a key tell which call it is. -/
def AttrKey.isIdentity : AttrKey → Bool
  | .spanKind | .model | .provider | .spanType => true
  | _ => false

/-- Whether the values under a key are token counts. -/
def AttrKey.isUsage : AttrKey → Bool
  | .promptTokens | .completionTokens | .totalTokens => true
  | _ => false

/-- Whether the values under a key tell of tool calls. -/
def AttrKey.isCall : AttrKey → Bool
  | .toolCallCount | .toolCallNames | .toolCallName _ | .toolCallArguments _ => true
  | _ => false

namespace Signal

/-- The call that a signal makes to the handle. -/
def call? : Signal → Option HandleCall
  | .handle call => some call
  | _ => none

/-- The sample that a signal books. -/
def sample? : Signal → Option Sample
  | .metric sample => some sample
  | _ => none

/-- The record that a signal writes to the log. -/
def log? : Signal → Option LogRecord
  | .log record => some record
  | _ => none

/-- The record that a signal writes to the log, if it tells of a failed
call. -/
def errorRecord? : Signal → Option LogRecord
  | .log ⟨.error, message, fields⟩ => some ⟨.error, message, fields⟩
  | _ => none

/-- **Whether a signal is an aside**: an attribute that the span keeps
nothing of, or a warning. -/
def isAside : Signal → Bool
  | .handle (.setAttribute key _) => key.isAside
  | .log ⟨.warn, _, _⟩ => true
  | _ => false

/-- **Whether a signal is one that setters send**: an attribute or a
warning. -/
def isSetting : Signal → Bool
  | .handle (.setAttribute _ _) => true
  | .log ⟨.warn, _, _⟩ => true
  | _ => false

/-- Asides are among what setters send. -/
theorem isSetting_of_isAside {signal : Signal} (h : signal.isAside = true) :
    signal.isSetting = true := by
  cases signal with
  | handle call => cases call <;> first | rfl | cases h
  | metric sample => cases h
  | log record =>
    obtain ⟨level, message, fields⟩ := record
    cases level <;> first | rfl | cases h

end Signal

namespace Span

@[simp] theorem isAside_warning (span : Span) (setter : String) (error : Error) :
    (span.warning setter error).isAside = true := rfl

@[simp] theorem Recorded.span_andThen (first : Recorded) (next : Span → Recorded) :
    (first.andThen next).span = (next first.span).span := rfl

@[simp] theorem Recorded.signals_andThen (first : Recorded) (next : Span → Recorded) :
    (first.andThen next).signals = first.signals ++ (next first.span).signals := rfl

/-! ## What the span keeps -/

/-- The signals of usage that is stored. -/
def usageSignals (usage : Usage) : List Signal := [
  .attribute .promptTokens (.ofWord usage.prompt),
  .attribute .completionTokens (.ofWord usage.completion),
  .attribute .totalTokens (.ofWord usage.total)]

/-- The names of calls, in their order. -/
def callNames (calls : List (Nat × OpenAiCall)) : List String :=
  calls.map fun entry => entry.2.canonical.name

/-- The signals of calls that are recorded, of which there is at least
one. -/
def callSignals (limits : Limits) (calls : List (Nat × OpenAiCall)) : List Signal :=
  indexedAttributes limits (calls.map fun entry => (entry.1, entry.2.canonical)) ++ [
    .attribute .toolCallCount (.ofCount calls.length),
    .attribute .toolCallNames (.text (String.intercalate "," (callNames calls)))]

/-- **The calls of a response**: those that are supplied, or else the ones
inside its text. -/
def responseCalls (content : Option String) (supplied : Option (List (Nat × OpenAiCall))) :
    List (Nat × OpenAiCall) :=
  supplied.getD (enumerate ((content.bind embeddedCalls?).getD []))

/-- The calls of a list that is not decoded, none if it is no list. -/
def payloadCalls (payload : Value) : List (Nat × OpenAiCall) :=
  (AnyCall.readIndexed payload).toOption.getD []

end Span

namespace Setter

/-- **The usage that a setter stores**, if it stores any. -/
def usage? : Setter → Option Usage
  | .usage u => some u
  | .usagePayload payload => Usage.ofPayload? payload
  | _ => none

/-- **The calls that a setter records**, with their positions. A supplied
value that turns out to be no list still keeps the text from being
searched. -/
def calls : Setter → List (Nat × OpenAiCall)
  | .output content calls =>
    Span.responseCalls content ((calls.filter fun calls => !calls.isEmpty).map Span.enumerate)
  | .outputPayload content calls =>
    Span.responseCalls content ((calls.filter Value.truthy).map Span.payloadCalls)
  | .toolCalls calls => Span.enumerate calls
  | .toolCallsPayload payload => Span.payloadCalls payload
  | _ => []

end Setter

namespace Span

/-! ## Recording calls -/

/-- **Calls are kept by their names and shown together**; a list without
calls leaves the span as it is. -/
theorem recordCalls_eq (span : Span) (calls : List (Nat × OpenAiCall)) :
    span.recordCalls calls
      = if calls.isEmpty then span.unchanged
        else ⟨{ span with toolNames := callNames calls }, callSignals span.limits calls⟩ := by
  have hnames : ((calls.map fun entry => (entry.1, entry.2.canonical)).map
      fun entry => entry.2.name) = callNames calls := List.map_map
  have hlength : (callNames calls).length = calls.length := List.length_map _
  unfold recordCalls callSignals
  simp only [hnames, hlength]

@[simp] theorem recordCalls_nil (span : Span) : span.recordCalls [] = span.unchanged := rfl

end Span

/-! ## Asides -/

/-- **The asides of a setter**: what it sends that the span keeps nothing
of. They tell of the payload, and of the span they look at the limits and
the operation only; the limits do no more than shorten them. -/
structure Asides where
  signals : Span → List Signal
  isAside : ∀ span, ∀ signal ∈ signals span, signal.isAside = true
  congr : ∀ first second : Span, first.limits = second.limits →
    first.operation = second.operation → signals first = signals second
  shorten : ∀ (span : Span) (limits : Limits), limits.Within span.limits →
    signals (span.limitedTo limits) = (signals span).filterMap (Signal.shorten limits)

namespace Asides

/-- No asides. -/
def none : Asides := ⟨fun _ => [], by simp, by simp, by simp⟩

/-- A warning. -/
def warning (setter : String) (error : Error) : Asides where
  signals span := [span.warning setter error]
  isAside := by simp
  congr _ _ _ hoperation := by rw [Span.warning, hoperation]; rfl
  shorten _ _ _ := rfl

/-- A message shown as the input. -/
def message (message : Message) : Asides where
  signals span := (span.recordMessage message).signals
  isAside _ _ h := by rw [List.mem_singleton.mp h]; rfl
  congr _ _ hlimits _ := by unfold Span.recordMessage; rw [hlimits]; rfl
  shorten span limits h := by
    show [Signal.attribute .inputMessage (.text (Text.excerpt limits.inputChars.toNat _))]
      = [Signal.attribute .inputMessage (.text (Text.excerpt limits.inputChars.toNat _))]
    rw [Text.excerpt_of_le h.inputChars]

/-- The response text. -/
def content (content : Option String) : Asides where
  signals span := (span.recordContent content).signals
  isAside span signal h := by
    unfold Span.recordContent at h
    split at h
    · split at h
      · cases h
      · rw [List.mem_singleton.mp h]; rfl
    · cases h
  congr _ _ hlimits _ := by
    unfold Span.recordContent
    rw [hlimits]
    split
    · split <;> rfl
    · rfl
  shorten span limits h := by
    unfold Span.recordContent
    split
    · split
      · rfl
      · show [Signal.attribute .outputMessage (.text (Text.excerpt limits.outputChars.toNat _))]
          = [Signal.attribute .outputMessage (.text (Text.excerpt limits.outputChars.toNat _))]
        rw [Text.excerpt_of_le h.outputChars]
    · rfl

/-- The parameters of a request. -/
def parameters (request : Value) : Asides where
  signals span := Parameter.all.filterMap (span.parameterSignal request)
  isAside span signal h := by
    obtain ⟨p, -, hp⟩ := List.mem_filterMap.mp h
    obtain ⟨raw, -, rfl⟩ := Option.map_eq_some_iff.mp hp
    split
    · cases p <;> rfl
    · rfl
  congr first second _ hoperation := by
    have hsignal : first.parameterSignal request = second.parameterSignal request := by
      funext p
      unfold Span.parameterSignal Span.warning
      rw [hoperation]
    rw [hsignal]
  shorten span limits _ := by
    rw [List.filterMap_filterMap]
    refine congrArg (List.filterMap · _) (funext fun p => ?_)
    show Option.map _ _ = (Option.map _ _).bind _
    rw [Option.bind_map]
    cases request.get? p.name with
    | none => rfl
    | some raw =>
      -- no parameter is shown under a key that is limited
      show some _ = Signal.shorten limits _
      dsimp only
      split <;> cases p <;> rfl

/-- Asides one after the other. -/
def append (first second : Asides) : Asides where
  signals span := first.signals span ++ second.signals span
  isAside span signal h :=
    (List.mem_append.mp h).elim (first.isAside span signal) (second.isAside span signal)
  congr a b hlimits hoperation := by
    rw [first.congr a b hlimits hoperation, second.congr a b hlimits hoperation]
  shorten span limits h := by
    rw [first.shorten span limits h, second.shorten span limits h, List.filterMap_append]

end Asides

namespace Span

/-! ## Each setter -/

/-- **Recording that comes down to asides and calls**: first the asides are
sent, and then the calls are recorded. -/
def RecordsOnly (calls : List (Nat × OpenAiCall)) (record : Span → Recorded) : Prop :=
  ∃ asides : Asides, ∀ span, record span
    = ⟨(span.recordCalls calls).span, asides.signals span ++ (span.recordCalls calls).signals⟩

theorem recordsOnly_unchanged : RecordsOnly [] unchanged := ⟨.none, fun _ => rfl⟩

theorem recordsOnly_warning (setter : String) (error : Error) :
    RecordsOnly [] fun span => span.send [span.warning setter error] :=
  ⟨.warning setter error, fun _ => rfl⟩

theorem recordsOnly_recordMessage (message : Message) :
    RecordsOnly [] fun span => span.recordMessage message :=
  ⟨.message message, fun _ => rfl⟩

theorem recordsOnly_recordCalls (calls : List (Nat × OpenAiCall)) :
    RecordsOnly calls fun span => span.recordCalls calls := ⟨.none, fun _ => rfl⟩

/-- Calls that are not decoded are recorded as those that can be read. -/
theorem recordsOnly_recordCallsPayload (payload : Value) :
    RecordsOnly (payloadCalls payload) fun span => span.recordCallsPayload payload := by
  unfold recordCallsPayload payloadCalls
  split
  · exact recordsOnly_unchanged
  · cases AnyCall.readIndexed payload with
    | ok calls => exact recordsOnly_recordCalls calls
    | error error => exact recordsOnly_warning "set_tool_calls" error

theorem recordsOnly_recordInput (messages : List Message) :
    RecordsOnly [] fun span => span.recordInput messages := by
  unfold recordInput
  split
  · exact recordsOnly_recordMessage _
  · exact recordsOnly_unchanged

theorem recordsOnly_recordInputPayload (messages : Value) :
    RecordsOnly [] fun span => span.recordInputPayload messages := by
  unfold recordInputPayload
  split
  · exact recordsOnly_unchanged
  · split
    · exact recordsOnly_unchanged
    · split
      · exact recordsOnly_recordMessage _
      · exact recordsOnly_warning "set_input" _
  · exact recordsOnly_warning "set_input" _

theorem recordsOnly_recordParameters (request : Value) :
    RecordsOnly [] fun span => span.recordParameters request := by
  unfold recordParameters
  split
  · exact recordsOnly_unchanged
  · exact ⟨.parameters _, fun span => by rw [recordCalls_nil, unchanged, List.append_nil]; rfl⟩
  · exact recordsOnly_warning parameterSetter _

/-- **A response is its text and its calls.** -/
theorem recordResponse_eq (span : Span) (content : Option String)
    (supplied : Option (List (Nat × OpenAiCall))) :
    span.recordResponse content supplied
      = ⟨(span.recordCalls (responseCalls content supplied)).span,
          (span.recordContent content).signals
            ++ (span.recordCalls (responseCalls content supplied)).signals⟩ := by
  have hspan : (span.recordContent content).span = span := by
    unfold recordContent
    split
    · split <;> rfl
    · rfl
  -- the text leaves the span as it is, so that the calls find it unchanged
  unfold recordResponse Recorded.andThen
  dsimp only
  rw [hspan]
  cases supplied with
  | some calls => rfl
  | none =>
    dsimp only
    unfold recordEmbedded responseCalls
    cases content.bind embeddedCalls? with
    | some calls => rfl
    | none => rfl

theorem recordsOnly_recordResponse (content : Option String)
    (supplied : Option (List (Nat × OpenAiCall))) :
    RecordsOnly (responseCalls content supplied)
      fun span => span.recordResponse content supplied :=
  ⟨.content content, fun span => span.recordResponse_eq content supplied⟩

theorem recordsOnly_recordOutputPayload (content : Option String) (calls : Option Value) :
    RecordsOnly (responseCalls content ((calls.filter Value.truthy).map payloadCalls))
      fun span => span.recordOutputPayload content calls := by
  unfold recordOutputPayload
  cases calls.filter Value.truthy with
  | none => exact recordsOnly_recordResponse content none
  | some payload =>
    show RecordsOnly (payloadCalls payload) _
    unfold payloadCalls
    dsimp only
    cases AnyCall.readIndexed payload with
    | ok calls => exact recordsOnly_recordResponse content (some calls)
    | error error =>
      -- the warning comes first, and no calls count as supplied
      refine ⟨(Asides.warning "set_output" error).append (.content content), fun span => ?_⟩
      show (⟨(span.recordResponse content (some [])).span, span.warning "set_output" error
        :: (span.recordResponse content (some [])).signals⟩ : Recorded) = _
      rw [recordResponse_eq]
      rfl

/-! ## Setters and active spans -/

/-- Record the usage of a payload, if it says anything. -/
def recordUsagePayload (span : Span) (payload : Value) : Recorded :=
  match Usage.ofPayload? payload with
  | some usage => span.recordUsage usage
  | none => span.unchanged

/-- **What a setter does to an active span.** -/
def record (span : Span) : Setter → Recorded
  | .usage usage => span.recordUsage usage
  | .usagePayload payload => span.recordUsagePayload payload
  | .input messages => span.recordInput messages
  | .inputPayload messages => span.recordInputPayload messages
  | .output content calls => span.recordOutput content calls
  | .outputPayload content calls => span.recordOutputPayload content calls
  | .toolCalls calls => span.recordCalls (enumerate calls)
  | .toolCallsPayload calls => span.recordCallsPayload calls
  | .parameters request => span.recordParameters request

theorem whenActive_unchanged (span : Span) (recording : Bool) :
    span.whenActive recording span.unchanged = span.unchanged := ite_self _

/-- **A setter acts on an active span and leaves any other alone.** One that looks at
something else before it asks for the span does nothing in that case either. -/
theorem set_eq (span : Span) (recording : Bool) (setter : Setter) :
    span.set recording setter = span.whenActive recording (span.record setter) := by
  cases setter with
  | usagePayload payload =>
    show span.setUsagePayload recording payload
      = span.whenActive recording (span.recordUsagePayload payload)
    unfold setUsagePayload recordUsagePayload
    cases Usage.ofPayload? payload with
    | some usage => rfl
    | none => exact (span.whenActive_unchanged recording).symm
  | toolCalls calls =>
    cases calls with
    | nil => exact (span.whenActive_unchanged recording).symm
    | cons call calls => rfl
  | usage | input | inputPayload | output | outputPayload | toolCallsPayload | parameters => rfl

/-! ## All setters at once -/

/-- **Setters that store no usage come down to asides and calls.** -/
theorem recordsOnly_record {setter : Setter} (h : setter.usage? = none) :
    RecordsOnly setter.calls fun span => span.record setter := by
  cases setter with
  | usage usage => cases h
  | usagePayload payload =>
    refine ⟨.none, fun span => ?_⟩
    show span.recordUsagePayload payload = _
    unfold recordUsagePayload
    rw [show Usage.ofPayload? payload = none from h]
    rfl
  | input messages => exact recordsOnly_recordInput messages
  | inputPayload messages => exact recordsOnly_recordInputPayload messages
  | output content calls => exact recordsOnly_recordResponse content _
  | outputPayload content calls => exact recordsOnly_recordOutputPayload content calls
  | toolCalls calls => exact recordsOnly_recordCalls (enumerate calls)
  | toolCallsPayload payload => exact recordsOnly_recordCallsPayload payload
  | parameters request => exact recordsOnly_recordParameters request

/-- **Setters that store usage do nothing else.** -/
theorem record_of_usage {setter : Setter} {usage : Usage} (h : setter.usage? = some usage) :
    (∀ span : Span, span.record setter = span.recordUsage usage) ∧ setter.calls = [] := by
  cases setter with
  | usage u =>
    cases h
    exact ⟨fun _ => rfl, rfl⟩
  | usagePayload payload =>
    refine ⟨fun span => ?_, rfl⟩
    show span.recordUsagePayload payload = _
    unfold recordUsagePayload
    rw [show Usage.ofPayload? payload = some usage from h]
  | _ => cases h

/-- The signals of a setter: those of the usage it stores, its asides, and
those of the calls it records. -/
def settingSignals (setter : Setter) (asides : Asides) (span : Span) : List Signal :=
  (setter.usage?.map usageSignals).getD [] ++ asides.signals span
    ++ (if setter.calls.isEmpty then [] else callSignals span.limits setter.calls)

/-- The span behind a setter: the usage it stores and the names of the calls
it records are kept, and everything else stays. -/
def keep (setter : Setter) (span : Span) : Span :=
  { span with
    usage := setter.usage?.or span.usage
    toolNames := if setter.calls.isEmpty then span.toolNames else callNames setter.calls }

/-- **What a setter does**: it keeps the usage it stores and the names of
the calls it records, and it sends these, and asides. -/
theorem record_eq (setter : Setter) :
    ∃ asides : Asides, ∀ span : Span,
      span.record setter = ⟨span.keep setter, settingSignals setter asides span⟩ := by
  cases h : setter.usage? with
  | some usage =>
    obtain ⟨hrecord, hcalls⟩ := record_of_usage h
    refine ⟨.none, fun span => ?_⟩
    unfold keep settingSignals
    rw [hrecord, hcalls, h]
    rfl
  | none =>
    obtain ⟨asides, heq⟩ := recordsOnly_record h
    refine ⟨asides, fun span => ?_⟩
    unfold keep settingSignals
    rw [show span.record setter = _ from heq span, recordCalls_eq, h]
    split <;> rfl

theorem span_record (span : Span) (setter : Setter) :
    (span.record setter).span = span.keep setter := by
  obtain ⟨asides, heq⟩ := record_eq setter
  rw [heq]

/-- **What a setter sends tells nothing of what was recorded before it**: it
looks at the limits and the operation alone, which no setter changes. -/
theorem signals_record_congr {first second : Span} (hlimits : first.limits = second.limits)
    (hoperation : first.operation = second.operation) (setter : Setter) :
    (first.record setter).signals = (second.record setter).signals := by
  obtain ⟨asides, heq⟩ := record_eq setter
  rw [heq, heq]
  show settingSignals setter asides first = settingSignals setter asides second
  unfold settingSignals
  rw [asides.congr first second hlimits hoperation, hlimits]

/-- What is sent of usage are attributes of token counts. -/
theorem exists_of_mem_usageSignals {usage : Usage} {signal : Signal}
    (h : signal ∈ usageSignals usage) :
    ∃ key value, signal = .attribute key value ∧ key.isUsage = true := by
  simp only [usageSignals, List.mem_cons, List.not_mem_nil, or_false] at h
  rcases h with rfl | rfl | rfl
  · exact ⟨_, _, rfl, rfl⟩
  · exact ⟨_, _, rfl, rfl⟩
  · exact ⟨_, _, rfl, rfl⟩

/-- What is sent of calls are attributes of calls. -/
theorem exists_of_mem_callSignals {limits : Limits} {calls : List (Nat × OpenAiCall)}
    {signal : Signal} (h : signal ∈ callSignals limits calls) :
    ∃ key value, signal = .attribute key value ∧ key.isCall = true := by
  rcases List.mem_append.mp h with h | h
  · obtain ⟨entry, -, h⟩ := List.mem_flatMap.mp h
    split at h
    · rcases List.mem_cons.mp h with rfl | h
      · exact ⟨_, _, rfl, rfl⟩
      · obtain ⟨arguments, -, rfl⟩ := Option.map_eq_some_iff.mp (Option.mem_toList.mp h)
        exact ⟨_, _, rfl, rfl⟩
    · cases h
  · simp only [List.mem_cons, List.not_mem_nil, or_false] at h
    rcases h with rfl | rfl
    · exact ⟨_, _, rfl, rfl⟩
    · exact ⟨_, _, rfl, rfl⟩

/-- **Setters send nothing but attributes and warnings.** -/
theorem isSetting_of_mem_record {span : Span} {setter : Setter} {signal : Signal}
    (h : signal ∈ (span.record setter).signals) : signal.isSetting = true := by
  obtain ⟨asides, heq⟩ := record_eq setter
  rw [heq] at h
  rcases List.mem_append.mp h with h | h
  · rcases List.mem_append.mp h with h | h
    · cases hu : setter.usage? with
      | none => rw [hu] at h; cases h
      | some usage =>
        rw [hu] at h
        obtain ⟨key, value, rfl, -⟩ := exists_of_mem_usageSignals h
        rfl
    · exact Signal.isSetting_of_isAside (asides.isAside span signal h)
  · split at h
    · cases h
    · obtain ⟨key, value, rfl, -⟩ := exists_of_mem_callSignals h
      rfl

end Span
end CallScope
