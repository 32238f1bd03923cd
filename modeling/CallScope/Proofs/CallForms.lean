import CallScope.Proofs.RecordFields
import CallScope.Proofs.Run

/-!
# Tool calls, decoded or as they came

Tool calls can be set on a span as a list of calls or as the JSON of one. The
two are read along different paths: a list is numbered and recorded, while
JSON is asked whether it says anything, read entry by entry as a call in
either shape, and numbered by the entries' places.

They come to the same, because a call is read back from its JSON as itself
(`AnyCall.decode_openAi`): in the OpenAI shape, which is tried first, with
its place in the list as its number. The one call that is not read back is one
whose arguments are present and `null`, since `null` reads as no arguments.
No such call comes of decoding (`OpenAiCall.readable_of_decode`).
-/

namespace CallScope

open Json Decode

/-! ## Calls that read back -/

/-- **A function that reads back from its JSON**: its arguments, if there are
any, are not `null`, and no object in them repeats a key. -/
structure FunctionCall.Readable (f : FunctionCall) : Prop where
  notNull : f.arguments ≠ some .null
  distinctKeys : ∀ v ∈ f.arguments, v.distinctKeys = true

/-- **A call that reads back from its JSON.** -/
def OpenAiCall.Readable (c : OpenAiCall) : Prop := c.function.Readable

namespace FunctionCall

/-- **A function is read back.** -/
theorem decode_toValue {f : FunctionCall} (h : f.Readable) : decode.ofValue f.toValue = .ok f := by
  obtain ⟨name, arguments⟩ := f
  have hname : (option string).ofValue (.ofOption .string name) = .ok name := by
    cases name <;> rfl
  unfold decode toValue
  rw [Record.decode_object, Record.fillMembers_cons rfl rfl hname]
  cases arguments with
  | none => rfl
  | some v =>
    have hv := option_any_ofValue (fun hv => h.notNull (congrArg some hv)) (h.distinctKeys v rfl)
    rw [Option.map_some, Option.toList_some, Record.fillMembers_cons rfl rfl hv]
    rfl

theorem field_arguments : record.Field "arguments" (option any) (·.arguments) :=
  Record.field_of_slots [_] [] rfl rfl (fun _ _ => rfl)
    (List.forall_mem_singleton.mpr (Record.leaves_slot (by decide) fun _ _ => rfl))

/-- Every function that is read reads back. -/
theorem readable_of_decode {mode : Mode} {d : Draft} {f : FunctionCall}
    (h : decode mode d = .ok f) : f.Readable := by
  obtain ⟨kept, hbuild, hnull, hkeys⟩ := field_arguments.kept_any h
  cases hbuild
  exact ⟨hnull, hkeys⟩

end FunctionCall

namespace OpenAiCall

/-- **A call is read back.** -/
theorem decode_toValue {c : OpenAiCall} (h : c.Readable) : decode.ofValue c.toValue = .ok c := by
  obtain ⟨id, kind, function⟩ := c
  have hid : ∀ id : String, (option string).ofValue (.string id) = .ok (some id) := fun _ => rfl
  have hkind : string.ofValue (.string kind) = .ok kind := rfl
  have hfunction : FunctionCall.decode.ofValue function.toValue = .ok function :=
    FunctionCall.decode_toValue h
  unfold decode toValue
  rw [Record.decode_object]
  cases id with
  | none =>
    rw [Option.map_none, Option.toList_none, List.nil_append,
      Record.fillMembers_cons rfl rfl hkind, Record.fillMembers_cons rfl rfl hfunction]
    rfl
  | some id =>
    rw [Option.map_some, Option.toList_some, List.singleton_append,
      Record.fillMembers_cons rfl rfl (hid id), Record.fillMembers_cons rfl rfl hkind,
      Record.fillMembers_cons rfl rfl hfunction]
    rfl

/-- The JSON of a call repeats no key. -/
theorem distinctKeys_toValue {c : OpenAiCall} (h : c.Readable) : c.toValue.distinctKeys = true := by
  obtain ⟨id, kind, name, arguments⟩ := c
  have hfunction : (FunctionCall.toValue ⟨name, arguments⟩).distinctKeys = true := by
    cases arguments with
    | none => cases name <;> rfl
    | some v =>
      have hv := h.distinctKeys v rfl
      cases name <;> simp [FunctionCall.toValue, Value.distinctKeys,
        Value.distinctKeysMembers, Value.ofOption, hv]
  cases id <;> simp [toValue, Value.distinctKeys, Value.distinctKeysMembers, hfunction]

theorem field_function : record.Field "function" FunctionCall.decode (·.function) := by
  refine Record.field_of_slots [_, _] [] rfl rfl (fun _ _ => rfl) ?_
  rw [List.append_nil, List.forall_mem_cons, List.forall_mem_singleton]
  exact ⟨Record.leaves_slot (by decide) fun _ _ => rfl,
    Record.leaves_slot (by decide) fun _ _ => rfl⟩

/-- **Every call that is read reads back.** -/
theorem readable_of_decode {mode : Mode} {d : Draft} {c : OpenAiCall}
    (h : decode mode d = .ok c) : c.Readable := by
  obtain ⟨kept, hbuild, hkept⟩ := field_function.exists_kept h
  obtain ⟨f, hf, rfl⟩ := Draft.exists_of_map_eq_ok hbuild
  obtain ⟨_, _, -, hread⟩ := hkept f (eq_some_of_required hf)
  exact FunctionCall.readable_of_decode hread

end OpenAiCall

/-! ## Lists of calls -/

namespace AnyCall

/-- **A call is read back in its own shape**, the one that is tried first. -/
theorem decode_openAi {c : OpenAiCall} (h : c.Readable) :
    decode.ofValue c.toValue = .ok (.openAi c) := by
  have hcall : OpenAiCall.decode .settled (.ofValue c.toValue) = .ok c :=
    OpenAiCall.decode_toValue h
  refine untagged_of_firstOf
    (Draft.value_ofValue_inHand (OpenAiCall.distinctKeys_toValue h)) (firstOf_cons ?_ _)
  exact congrArg (Except.map AnyCall.openAi) hcall

/-- **The entries that calls are written to** are read as these calls under
their places. -/
theorem readEntries_toValue {calls : List OpenAiCall} (h : ∀ c ∈ calls, c.Readable)
    (index : Nat) :
    readEntries index (calls.map OpenAiCall.toValue)
      = (List.range' index calls.length).zip calls := by
  induction calls generalizing index with
  | nil => rfl
  | cons c calls ih =>
    rw [List.forall_mem_cons] at h
    have hentry : ofEntry? c.toValue = some c := by
      unfold ofEntry?
      rw [decode_openAi h.1]
      rfl
    rw [List.map_cons, readEntries, hentry]
    dsimp only
    rw [ih h.2]
    rfl

/-- **A list of calls is read back**, each under its place. -/
theorem readIndexed_toValue {calls : List OpenAiCall} (h : ∀ c ∈ calls, c.Readable) :
    readIndexed (.array (calls.map OpenAiCall.toValue)) = .ok (Span.enumerate calls) := by
  unfold Span.enumerate
  rw [List.range_eq_range', ← readEntries_toValue h]
  rfl

end AnyCall

/-! ## Setting calls -/

namespace Span

/-- **Tool calls that are set as JSON** are recorded as if they were set as a
list. -/
theorem record_toolCallsPayload (span : Span) {calls : List OpenAiCall}
    (h : ∀ c ∈ calls, c.Readable) :
    span.record (.toolCallsPayload (.array (calls.map OpenAiCall.toValue)))
      = span.record (.toolCalls calls) := by
  unfold record recordCallsPayload
  dsimp only
  rw [AnyCall.readIndexed_toValue h]

/-- **A response whose calls come as JSON** is recorded as if they came as a
list. No calls are none supplied, in either form. -/
theorem record_outputPayload (span : Span) (content : Option String)
    {calls : List OpenAiCall} (h : ∀ c ∈ calls, c.Readable) :
    span.record (.outputPayload content (some (.array (calls.map OpenAiCall.toValue))))
      = span.record (.output content (some calls)) := by
  cases calls with
  | nil => rfl
  | cons c calls =>
    have htruthy : (some (Value.array ((c :: calls).map OpenAiCall.toValue))).filter Value.truthy
        = some (.array ((c :: calls).map OpenAiCall.toValue)) := rfl
    unfold record recordOutputPayload
    dsimp only
    rw [htruthy]
    dsimp only
    rw [AnyCall.readIndexed_toValue h]
    rfl

/-- **Tool calls may be set as a list or as its JSON**, by themselves and with
a response: in every state, the span afterwards and all that is sent out are
the same. If there are no calls, both forms look for some in the text of the
response. The calls are any that read back, as all do that come of
decoding. -/
theorem step_calls_of_payload {calls : List OpenAiCall} (h : ∀ c ∈ calls, c.Readable)
    (content : Option String) (span : Span) (recording : Bool) (now : Moment) :
    let payload : Value := .array (calls.map OpenAiCall.toValue)
    span.step recording now (.set (.toolCallsPayload payload))
        = span.step recording now (.set (.toolCalls calls))
      ∧ span.step recording now (.set (.outputPayload content (some payload)))
        = span.step recording now (.set (.output content (some calls)))
      ∧ span.record (.outputPayload content (some (.array [])))
        = ((span.recordContent content).andThen fun span => span.recordEmbedded content)
      ∧ span.record (.output content (some []))
        = ((span.recordContent content).andThen fun span => span.recordEmbedded content)
      ∧ ∀ mode draft c, OpenAiCall.decode mode draft = .ok c → c.Readable :=
  ⟨step_set_congr (span.record_toolCallsPayload h) recording now,
    step_set_congr (span.record_outputPayload content h) recording now, rfl, rfl,
    fun _ _ _ => OpenAiCall.readable_of_decode⟩

/-- Calls of which one has no name and arguments that are no text, and another
has neither an identifier nor arguments. -/
theorem step_calls_of_payload_mixed :
    let calls : List OpenAiCall := [
      ⟨some "call_1", "function", ⟨none, some (.object [("city", .string "Oslo")])⟩⟩,
      ⟨none, OpenAiCall.defaultKind, ⟨some "stop", none⟩⟩]
    let payload : Value := .array (calls.map OpenAiCall.toValue)
    let span := ((Instrumentor.ofConfig {}).start "gpt" "openai" none ⟨0⟩).span
    (∀ c ∈ calls, c.Readable)
      ∧ span.step true ⟨1⟩ (.set (.toolCallsPayload payload))
        = span.step true ⟨1⟩ (.set (.toolCalls calls)) := by
  intro calls payload span
  have h : ∀ c ∈ calls, c.Readable := by
    refine List.forall_mem_cons.mpr ⟨⟨by simp, ?_⟩, List.forall_mem_singleton.mpr ⟨by simp, ?_⟩⟩
    · intro v hv
      cases hv
      decide
    · intro v hv
      cases hv
  exact ⟨h, (step_calls_of_payload h none span true ⟨1⟩).1⟩

end Span
end CallScope
