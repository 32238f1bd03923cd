import CallScope.Proofs.Setting

/-!
# What setters show, key by key

Setters come in four families: usage, the input, the response with its tool
calls, and the parameters of the request. A setter shows values of five kinds
at most, and of each it is known under which keys they are shown and what they
are (`Setter.Shows`). It follows that every key belongs to one family, whose
setters alone show values under it (`AttrKey.family?_of_mem_record`).
-/

namespace CallScope

open Json Decode

/-- **The families of setters.** -/
inductive Family where
  | usage
  | input
  | parameters
  | response
deriving DecidableEq

/-- The family of a setter. Tool calls are part of a response, whether they are
set with its text or without. -/
def Setter.family : Setter → Family
  | .usage _ | .usagePayload _ => .usage
  | .input _ | .inputPayload _ => .input
  | .parameters _ => .parameters
  | .output _ _ | .outputPayload _ _ | .toolCalls _ | .toolCallsPayload _ => .response

/-- Usage is stored by setters of usage. -/
theorem Setter.family_of_usage? {setter : Setter} {usage : Usage} (h : setter.usage? = some usage) :
    setter.family = .usage := by
  cases setter <;> first | rfl | cases h

/-- Calls are recorded by setters of a response. -/
theorem Setter.family_of_calls {setter : Setter} (h : setter.calls ≠ []) :
    setter.family = .response := by
  cases setter <;> first | rfl | exact absurd rfl h

/-- **The family whose setters show values under a key.** The identity of a
call belongs to none. -/
def AttrKey.family? : AttrKey → Option Family
  | .promptTokens | .completionTokens | .totalTokens => some .usage
  | .inputMessage => some .input
  | .temperature | .maxTokens | .topP | .topK | .stream => some .parameters
  | .outputMessage => some .response
  | .toolCallCount | .toolCallNames | .toolCallName _ | .toolCallArguments _ => some .response
  | .spanKind | .model | .provider | .spanType => none

/-- **What a setter may show under some limits**: the counts of the usage it
stores, a message, the text of a response, a parameter that was brought to its
type, and the calls it records. -/
inductive Setter.Shows (limits : Limits) (setter : Setter) : AttrKey → AttrValue → Prop where
  | usage {usage : Usage} {key : AttrKey} {value : AttrValue} (h : setter.usage? = some usage)
    (hmem : Signal.attribute key value ∈ Span.usageSignals usage) : Shows limits setter key value
  | input (h : setter.family = .input) (text : String) :
    Shows limits setter .inputMessage (.text (Text.excerpt limits.inputChars.toNat text))
  | output (h : setter.family = .response) (text : String) :
    Shows limits setter .outputMessage (.text (Text.excerpt limits.outputChars.toNat text))
  | parameter (h : setter.family = .parameters) {p : Parameter} {raw : Value} {value : AttrValue}
    (hvalue : p.coerce raw = .ok value) : Shows limits setter p.key value
  | calls {key : AttrKey} {value : AttrValue} (h : setter.calls ≠ [])
    (hmem : Signal.attribute key value ∈ Span.callSignals limits setter.calls) :
    Shows limits setter key value

namespace Setter.Shows

variable {span : Span} {setter : Setter} {key : AttrKey} {value : AttrValue}

theorem of_mem_recordMessage (h : setter.family = .input) {message : Message}
    (hmem : Signal.attribute key value ∈ (span.recordMessage message).signals) :
    setter.Shows span.limits key value := by
  cases List.mem_singleton.mp hmem
  exact .input h message.toText

theorem of_mem_warning {name : String} {error : Error}
    (hmem : Signal.attribute key value ∈ (span.send [span.warning name error]).signals) :
    setter.Shows span.limits key value := by
  cases List.mem_singleton.mp hmem

theorem of_mem_recordCalls {calls : List (Nat × OpenAiCall)} (h : setter.calls = calls)
    (hmem : Signal.attribute key value ∈ (span.recordCalls calls).signals) :
    setter.Shows span.limits key value := by
  rw [Span.recordCalls_eq] at hmem
  split at hmem
  · cases hmem
  · rename_i hne
    rw [← h] at hmem hne
    exact .calls (by simpa using hne) hmem

theorem of_mem_recordResponse (hfamily : setter.family = .response) {content : Option String}
    {supplied : Option (List (Nat × OpenAiCall))}
    (h : setter.calls = Span.responseCalls content supplied)
    (hmem : Signal.attribute key value ∈ (span.recordResponse content supplied).signals) :
    setter.Shows span.limits key value := by
  rw [Span.recordResponse_eq] at hmem
  rcases List.mem_append.mp hmem with hmem | hmem
  · unfold Span.recordContent at hmem
    split at hmem
    · split at hmem
      · cases hmem
      · cases List.mem_singleton.mp hmem
        exact .output hfamily _
    · cases hmem
  · exact of_mem_recordCalls h hmem

/-- **A setter shows nothing else.** -/
theorem of_mem_record (hmem : Signal.attribute key value ∈ (span.record setter).signals) :
    setter.Shows span.limits key value := by
  unfold Span.record at hmem
  cases setter with
  | usage usage => exact .usage rfl hmem
  | usagePayload payload =>
    dsimp only at hmem
    unfold Span.recordUsagePayload at hmem
    split at hmem
    · rename_i usage husage
      exact .usage husage hmem
    · cases hmem
  | input messages =>
    dsimp only at hmem
    unfold Span.recordInput at hmem
    split at hmem
    · exact of_mem_recordMessage rfl hmem
    · cases hmem
  | inputPayload messages =>
    dsimp only at hmem
    unfold Span.recordInputPayload at hmem
    split at hmem
    · cases hmem
    · split at hmem
      · cases hmem
      · split at hmem
        · exact of_mem_recordMessage rfl hmem
        · exact of_mem_warning hmem
    · exact of_mem_warning hmem
  | output content calls => exact of_mem_recordResponse rfl rfl hmem
  | outputPayload content calls =>
    have hcalls : (Setter.outputPayload content calls).calls
        = Span.responseCalls content ((calls.filter Value.truthy).map Span.payloadCalls) := rfl
    dsimp only at hmem
    unfold Span.recordOutputPayload at hmem
    split at hmem
    · rename_i hnone
      rw [hnone] at hcalls
      exact of_mem_recordResponse rfl hcalls hmem
    · rename_i payload hpayload
      rw [hpayload, Option.map_some, Span.payloadCalls] at hcalls
      split at hmem
      · rename_i read hread
        rw [hread] at hcalls
        exact of_mem_recordResponse rfl hcalls hmem
      · rename_i error herror
        rw [herror] at hcalls
        rcases List.mem_append.mp hmem with hmem | hmem
        · exact of_mem_warning hmem
        · exact of_mem_recordResponse rfl hcalls hmem
  | toolCalls calls => exact of_mem_recordCalls rfl hmem
  | toolCallsPayload payload =>
    have hcalls : (Setter.toolCallsPayload payload).calls = Span.payloadCalls payload := rfl
    dsimp only at hmem
    unfold Span.recordCallsPayload at hmem
    split at hmem
    · cases hmem
    · unfold Span.payloadCalls at hcalls
      split at hmem
      · rename_i read hread
        rw [hread] at hcalls
        exact of_mem_recordCalls hcalls hmem
      · exact of_mem_warning hmem
  | parameters request =>
    dsimp only at hmem
    unfold Span.recordParameters at hmem
    split at hmem
    · cases hmem
    · obtain ⟨p, -, hp⟩ := List.mem_filterMap.mp hmem
      obtain ⟨raw, -, hsignal⟩ := Option.map_eq_some_iff.mp hp
      split at hsignal
      · rename_i coerced hcoerced
        cases hsignal
        exact .parameter rfl hcoerced
      · cases hsignal
    · exact of_mem_warning hmem

/-- **A key is shown by setters of its own family.** -/
theorem family_key {limits : Limits} (h : setter.Shows limits key value) :
    key.family? = some setter.family := by
  cases h with
  | usage h hmem =>
    obtain ⟨other, _, heq, hkey⟩ := Span.exists_of_mem_usageSignals hmem
    cases heq
    rw [family_of_usage? h]
    cases key <;> first | rfl | cases hkey
  | input h => rw [h]; rfl
  | output h => rw [h]; rfl
  | @parameter h p => rw [h]; cases p <;> rfl
  | calls h hmem =>
    obtain ⟨other, _, heq, hkey⟩ := Span.exists_of_mem_callSignals hmem
    cases heq
    rw [family_of_calls h]
    cases key <;> first | rfl | cases hkey

end Setter.Shows

/-- **A setter sets keys of its family only.** -/
theorem AttrKey.family?_of_mem_record {span : Span} {setter : Setter} {key : AttrKey}
    {value : AttrValue} (h : Signal.attribute key value ∈ (span.record setter).signals) :
    key.family? = some setter.family := (Setter.Shows.of_mem_record h).family_key

end CallScope
