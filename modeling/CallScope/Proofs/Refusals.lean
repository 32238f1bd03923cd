import CallScope.Proofs.ClosedOnce
import CallScope.Proofs.MessageForms
import CallScope.Proofs.SuppliedCalls

/-!
# Payloads that are refused

A setter that is given a payload of the wrong shape warns of it. A payload is
looked at as a whole before anything of it is recorded, so that a setter which
warns has recorded nothing of what it warns of: no part of a list that is none,
and nothing of a message that turned out to be none. Only a response has two
parts, and its text is recorded even if what was supplied as its calls is
refused (`Span.record_outputPayload_of_other`).

This module says exactly which payloads are refused, and that a refusal sends
one warning and does nothing else (`Span.warns_iff_refused`).
-/

namespace CallScope

open Json Decode

/-! ## Warnings -/

/-- The warning that a signal writes to the log. -/
def Signal.warning? : Signal → Option LogRecord
  | .log ⟨.warn, message, fields⟩ => some ⟨.warn, message, fields⟩
  | _ => none

/-- **The warnings among signals.** -/
def warnings (signals : List Signal) : List LogRecord := signals.filterMap Signal.warning?

@[simp] theorem warnings_append (first second : List Signal) :
    warnings (first ++ second) = warnings first ++ warnings second := List.filterMap_append

/-- Attributes warn of nothing. -/
theorem warnings_eq_nil {signals : List Signal}
    (h : ∀ signal ∈ signals, ∃ key value, signal = .attribute key value) :
    warnings signals = [] := by
  refine List.filterMap_eq_nil_iff.mpr fun signal hs => ?_
  obtain ⟨key, value, rfl⟩ := h signal hs
  rfl

namespace Span

/-- Calls that are recorded are not warned of. -/
theorem warnings_recordCalls (span : Span) (calls : List (Nat × OpenAiCall)) :
    warnings (span.recordCalls calls).signals = [] := by
  refine warnings_eq_nil fun signal hs => ?_
  rw [recordCalls_eq] at hs
  split at hs
  · cases hs
  · obtain ⟨key, value, rfl, -⟩ := exists_of_mem_callSignals hs
    exact ⟨key, value, rfl⟩

/-- A text that is shown is not warned of. -/
theorem warnings_textSignals (span : Span) (content : Option String) :
    warnings (span.textSignals content) = [] := by
  refine warnings_eq_nil fun signal hs => ?_
  obtain ⟨text, -, rfl⟩ := List.mem_map.mp hs
  exact ⟨_, _, rfl⟩

/-! ## Tool calls -/

/-- A value that should be a list and is neither one nor `null`. -/
def NoList (payload : Value) : Prop := payload ≠ .null ∧ ∀ entries, payload ≠ .array entries

/-- Whatever should be a list is refused if it is none, and is otherwise `null` or
a list. -/
theorem noList_cases (payload : Value) :
    NoList payload ∨ payload = .null ∨ ∃ entries, payload = .array entries := by
  cases payload with
  | null => exact .inr (.inl rfl)
  | array entries => exact .inr (.inr ⟨entries, rfl⟩)
  | _ => exact .inl ⟨nofun, nofun⟩

/-- **Calls that are no list are refused.** -/
theorem record_toolCallsPayload_of_noList (span : Span) {payload : Value} (h : NoList payload) :
    span.record (.toolCallsPayload payload)
      = ⟨span, [span.warning "set_tool_calls" .toolCallsNoList]⟩ := by
  cases payload with
  | null => exact absurd rfl h.1
  | array entries => exact absurd rfl (h.2 entries)
  | _ => rfl

/-- Other calls are not warned of. -/
theorem warnings_toolCallsPayload (span : Span) {payload : Value} (h : ¬NoList payload) :
    warnings (span.record (.toolCallsPayload payload)).signals = [] := by
  rcases (noList_cases payload).resolve_left h with rfl | ⟨entries, rfl⟩
  · rfl
  · exact span.warnings_recordCalls (AnyCall.readEntries 0 entries)

/-- **Calls are warned of exactly if they are refused.** -/
theorem warns_toolCallsPayload_iff (span : Span) (payload : Value) :
    warnings (span.record (.toolCallsPayload payload)).signals ≠ [] ↔ NoList payload := by
  refine ⟨Not.imp_symm span.warnings_toolCallsPayload, fun h => ?_⟩
  rw [span.record_toolCallsPayload_of_noList h]
  exact List.cons_ne_nil _ _

/-! ## Messages -/

/-- **The last entry of the user** in a list of messages. -/
def LastOfUser (payload entry : Value) : Prop :=
  ∃ before after, payload = .array (before ++ entry :: after)
    ∧ FromUser entry ∧ ∀ other ∈ after, ¬FromUser other

/-- A list has a last entry of the user, or no entry of the user. -/
theorem lastOfUser_cases (entries : List Value) :
    (∀ entry ∈ entries, ¬FromUser entry) ∨ ∃ entry, LastOfUser (.array entries) entry := by
  induction entries with
  | nil => exact .inl (List.forall_mem_nil _)
  | cons first rest ih =>
    rcases ih with hnone | ⟨entry, before, after, hrest, hentry, hafter⟩
    · by_cases hfirst : FromUser first
      · exact .inr ⟨first, [], rest, rfl, hfirst, hnone⟩
      · exact .inl (List.forall_mem_cons.mpr ⟨hfirst, hnone⟩)
    · cases hrest
      exact .inr ⟨entry, first :: before, after, rfl, hentry, hafter⟩

/-- **Messages that are refused**: they are no list, or the last entry of the user
is no message. -/
def RefusedMessages (payload : Value) : Prop :=
  NoList payload
    ∨ ∃ entry, LastOfUser payload entry ∧ ∀ message, Message.decode.ofValue entry ≠ .ok message

/-- **Refused messages are warned of** and not recorded. -/
theorem record_inputPayload_of_refused (span : Span) {payload : Value}
    (h : RefusedMessages payload) :
    ∃ error, span.record (.inputPayload payload)
      = ⟨span, [span.warning "set_input" error]⟩ := by
  rcases h with hlist | ⟨entry, ⟨before, after, rfl, hentry, hafter⟩, hdecode⟩
  · refine ⟨.messagesNoList, ?_⟩
    cases payload with
    | null => exact absurd rfl hlist.1
    | array entries => exact absurd rfl (hlist.2 entries)
    | _ => rfl
  · rw [span.record_inputPayload_of_last hentry before hafter]
    unfold recordEntry
    cases hmessage : Message.decode.ofValue entry with
    | ok message => exact absurd hmessage (hdecode message)
    | error fault => exact ⟨.decode fault, rfl⟩

/-- Other messages are not warned of. -/
theorem warnings_inputPayload (span : Span) {payload : Value} (h : ¬RefusedMessages payload) :
    warnings (span.record (.inputPayload payload)).signals = [] := by
  rcases noList_cases payload with hlist | rfl | ⟨entries, rfl⟩
  · exact absurd (.inl hlist) h
  · rfl
  · rcases lastOfUser_cases entries with hnone | ⟨entry, hlast⟩
    · rw [span.record_inputPayload_of_none hnone]
      rfl
    · -- the entry that is chosen is a message, and so it is shown
      have hdecode : ∃ message, Message.decode.ofValue entry = .ok message := by
        by_contra hnone
        exact h (.inr ⟨entry, hlast, not_exists.mp hnone⟩)
      obtain ⟨message, hmessage⟩ := hdecode
      obtain ⟨before, after, heq, hentry, hafter⟩ := hlast
      rw [heq, span.record_inputPayload_of_last hentry before hafter]
      unfold recordEntry
      rw [hmessage]
      rfl

/-- **Messages are warned of exactly if they are refused.** -/
theorem warns_inputPayload_iff (span : Span) (payload : Value) :
    warnings (span.record (.inputPayload payload)).signals ≠ [] ↔ RefusedMessages payload := by
  refine ⟨Not.imp_symm span.warnings_inputPayload, fun h => ?_⟩
  obtain ⟨error, hrecord⟩ := span.record_inputPayload_of_refused h
  rw [hrecord]
  exact List.cons_ne_nil _ _

/-! ## Responses -/

/-- **Calls that are refused with a response**: they say something and are no
list. -/
def RefusedCalls (calls : Option Value) : Prop :=
  ∃ payload, calls = some payload ∧ ¬payload.SaysNothing ∧ ∀ entries, payload ≠ .array entries

/-- **Calls that are refused with a response** are warned of once, and only the
text is recorded. -/
theorem warnings_outputPayload_of_refused (span : Span) (content : Option String)
    {calls : Option Value} (h : RefusedCalls calls) :
    span.record (.outputPayload content calls)
        = ⟨span, span.warning "set_output" .toolCallsNoList :: span.textSignals content⟩
      ∧ (warnings (span.record (.outputPayload content calls)).signals).length = 1 := by
  obtain ⟨payload, rfl, hsays, hlist⟩ := h
  have hrecord := span.record_outputPayload_of_other content hsays hlist
  refine ⟨hrecord, ?_⟩
  rw [hrecord]
  show (_ :: warnings (span.textSignals content)).length = 1
  rw [span.warnings_textSignals]
  rfl

/-- Other responses are not warned of, whether their calls are supplied or
looked for in their text. -/
theorem warnings_outputPayload (span : Span) (content : Option String) {calls : Option Value}
    (h : ¬RefusedCalls calls) :
    warnings (span.record (.outputPayload content calls)).signals = [] := by
  have hshown : ∀ found : List (Nat × OpenAiCall),
      warnings (span.textSignals content ++ (span.recordCalls found).signals) = [] := by
    intro found
    rw [warnings_append, span.warnings_textSignals, span.warnings_recordCalls]
    rfl
  have houtput : warnings (span.record (.output content none)).signals = [] := by
    show warnings (span.recordResponse content none).signals = []
    rw [recordResponse_eq, recordContent_eq]
    exact hshown _
  cases calls with
  | none => exact houtput
  | some payload =>
    by_cases hnothing : payload.SaysNothing
    · rw [span.record_outputPayload_of_nothing content hnothing]
      exact houtput
    · have hlist : ∃ entries, payload = .array entries := by
        by_contra hnone
        exact h ⟨payload, rfl, hnothing, not_exists.mp hnone⟩
      obtain ⟨entries, rfl⟩ := hlist
      rw [span.record_outputPayload_of_list content hnothing]
      exact hshown _

/-- **A response is warned of exactly if the calls supplied with it are
refused.** -/
theorem warns_outputPayload_iff (span : Span) (content : Option String) (calls : Option Value) :
    warnings (span.record (.outputPayload content calls)).signals ≠ [] ↔ RefusedCalls calls := by
  refine ⟨Not.imp_symm (span.warnings_outputPayload content), fun h hnone => ?_⟩
  have hone := (span.warnings_outputPayload_of_refused content h).2
  rw [hnone] at hone
  cases hone

/-! ## All payloads -/

/-- A setter as a turn of an open span whose handle records. -/
theorem step_set_of_open {span : Span} (hopen : span.isOpen = true) (now : Moment)
    (setter : Setter) :
    span.step true now (.set setter)
      = ⟨(span.record setter).span, none, (span.record setter).signals⟩ := by
  rw [step_set, hopen]
  rfl

/-- **A setter that warns has recorded nothing of what it warns of.** On an open
span whose handle records, tool calls and messages are warned of if and only if
they are refused, and then one warning is all that happens. A response is warned
of if and only if the calls that are supplied with it are refused, and then the
warning and its text are all that is sent, whatever calls there are in the text.
No setter closes a span, sets a status, or books a sample. -/
theorem warns_iff_refused {span : Span} (hopen : span.isOpen = true) (now : Moment) :
    (∀ payload : Value,
      let done := span.step true now (.set (.toolCallsPayload payload))
      (warnings done.signals ≠ [] ↔ payload ≠ .null ∧ ∀ entries, payload ≠ .array entries)
        ∧ (warnings done.signals ≠ [] →
          done = ⟨span, none, [span.warning "set_tool_calls" .toolCallsNoList]⟩))
    ∧ (∀ payload : Value,
      let done := span.step true now (.set (.inputPayload payload))
      (warnings done.signals ≠ [] ↔ (payload ≠ .null ∧ ∀ entries, payload ≠ .array entries)
          ∨ ∃ entry, LastOfUser payload entry
            ∧ ∀ message, Message.decode.ofValue entry ≠ .ok message)
        ∧ (warnings done.signals ≠ [] →
          ∃ error, done = ⟨span, none, [span.warning "set_input" error]⟩))
    ∧ (∀ (content : Option String) (calls : Option Value),
      let done := span.step true now (.set (.outputPayload content calls))
      (warnings done.signals).length ≤ 1
        ∧ (warnings done.signals ≠ [] ↔ ∃ payload, calls = some payload
          ∧ ¬payload.SaysNothing ∧ ∀ entries, payload ≠ .array entries)
        ∧ (warnings done.signals ≠ [] → done = ⟨span, none,
          span.warning "set_output" .toolCallsNoList :: span.textSignals content⟩))
    ∧ ∀ (recording : Bool) (setter : Setter),
      let done := span.step recording now (.set setter)
      done.summary = none ∧ done.span.isOpen = true
        ∧ HandleCall.finish ∉ done.signals.filterMap Signal.call?
        ∧ (done.signals.filterMap Signal.call?).filterMap HandleCall.status? = []
        ∧ done.signals.filterMap Signal.sample? = [] := by
  simp only [step_set_of_open hopen]
  refine ⟨fun payload => ⟨span.warns_toolCallsPayload_iff payload, fun hwarns => ?_⟩,
    fun payload => ⟨span.warns_inputPayload_iff payload, fun hwarns => ?_⟩,
    fun content calls => ⟨?_, span.warns_outputPayload_iff content calls, fun hwarns => ?_⟩,
    fun recording setter => ?_⟩
  · have hrefused := (span.warns_toolCallsPayload_iff payload).mp hwarns
    rw [span.record_toolCallsPayload_of_noList hrefused]
  · have hrefused := (span.warns_inputPayload_iff payload).mp hwarns
    obtain ⟨error, hrecord⟩ := span.record_inputPayload_of_refused hrefused
    exact ⟨error, by rw [hrecord]⟩
  · by_cases hrefused : RefusedCalls calls
    · exact Nat.le_of_eq (span.warnings_outputPayload_of_refused content hrefused).2
    · rw [span.warnings_outputPayload content hrefused]
      exact Nat.zero_le 1
  · have hrefused := (span.warns_outputPayload_iff content calls).mp hwarns
    rw [(span.warnings_outputPayload_of_refused content hrefused).1]
  · obtain ⟨hsummary, hstays, hsetting⟩ :=
      step_leaves_open (show (SpanOp.set setter).outcome? = none from rfl) span recording now
    have hinterim := fun signal hs => Signal.isInterim_of_isSetting (hsetting signal hs)
    have hcalls := isInterim_calls hinterim
    exact ⟨hsummary, hstays.trans hopen,
      List.count_eq_zero.mp (HandleCall.count_finish_interim hcalls),
      HandleCall.statuses_interim hcalls, samples_interim hinterim⟩

/-- A text is no list of calls, a message whose content is a number is none even
behind one that could be shown, and an object that is supplied as calls keeps
those in the text from being recorded. -/
theorem warns_iff_refused_text :
    let span := ((Instrumentor.ofConfig {}).start "gpt" "openai" none ⟨0⟩).span
    let number : Value := .number (.integer ⟨42, by decide, by decide⟩)
    let asked : Value := .object [("role", .string "user"), ("content", .string "hello")]
    let wrong : Value := .object [("role", .string "user"), ("content", number)]
    let call : Value := .object [("name", .string "search")]
    let text := (Value.object [("tool_calls", .array [call])]).spaced
    let turn := fun setter => span.step true ⟨1⟩ (.set setter)
    span.isOpen = true
      ∧ turn (.toolCallsPayload (.string "[]"))
        = ⟨span, none, [span.warning "set_tool_calls" .toolCallsNoList]⟩
      ∧ warnings (turn (.inputPayload (.array [asked]))).signals = []
      ∧ (∃ error, turn (.inputPayload (.array [asked, wrong]))
        = ⟨span, none, [span.warning "set_input" error]⟩)
      ∧ turn (.outputPayload (some text) (some call))
        = ⟨span, none, span.warning "set_output" .toolCallsNoList
          :: span.textSignals (some text)⟩ := by
  intro span number asked wrong call text turn
  have hopen : span.isOpen = true := rfl
  obtain ⟨hcalls, hinput, houtput, -⟩ := warns_iff_refused hopen ⟨1⟩
  have hlast : LastOfUser (.array [asked, wrong]) wrong :=
    ⟨[asked], [], rfl, ⟨_, rfl, rfl⟩, List.forall_mem_nil _⟩
  have hwrong : ∀ message, Message.decode.ofValue wrong ≠ .ok message :=
    show ∀ message, Except.error _ ≠ .ok message from nofun
  have hsays : ¬call.SaysNothing := show ¬(Value.object _).SaysNothing from nofun
  have hlist : ∀ entries, call ≠ .array entries :=
    show ∀ entries, Value.object _ ≠ .array entries from nofun
  exact ⟨hopen, (hcalls _).2 ((hcalls _).1.mpr ⟨nofun, nofun⟩), rfl,
    (hinput _).2 ((hinput _).1.mpr (.inr ⟨wrong, hlast, hwrong⟩)),
    (houtput _ _).2.2 ((houtput _ _).2.1.mpr ⟨call, rfl, hsays, hlist⟩)⟩

end Span
end CallScope
