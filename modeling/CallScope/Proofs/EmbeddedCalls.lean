import CallScope.Proofs.CallEntries

/-!
# Calls inside a text and calls beside it

Compact calls reach a span inside the text of a response, as the member
`tool_calls` of the object that the text is, or beside it, as a value that the
caller took out of the text. The two are read along different paths. Inside a
text only compact calls count, and they are numbered as they are found; beside
it an entry is tried in the OpenAI shape first, and keeps its place in the
list.

If no entry has the OpenAI shape, both paths find the same calls in the same
order (`CompactCall.read_eq_convert`), and what they record differs in nothing
but the numbers under which single calls are shown
(`Span.embedded_or_supplied`): inside a text the calls are numbered without
gaps, beside it an entry that is no call leaves its place unused.
-/

namespace CallScope

open Json Decode

/-! ## The same calls -/

namespace CompactCall

/-- Entries that are not in the OpenAI shape. -/
def NoneOpenAi (entries : List Value) : Prop :=
  ∀ entry ∈ entries, ∀ call, OpenAiCall.decode.ofValue entry ≠ .ok call

/-- What entries are converted to is what they are read as, one by one. -/
theorem convert_eq {entries : List Value} (h : NoneOpenAi entries) :
    convert (.array entries) = entries.filterMap AnyCall.ofEntry? := by
  show (entries.filterMap _).map toOpenAi = _
  rw [List.map_filterMap]
  exact List.filterMap_congr fun entry hentry =>
    (AnyCall.ofEntry?_of_not_openAi (h entry hentry)).symm

/-- **Both paths find the same calls.** -/
theorem read_eq_convert {entries : List Value} (h : NoneOpenAi entries) :
    AnyCall.read (.array entries) = .ok (convert (.array entries)) := by
  rw [convert_eq h, ← AnyCall.map_snd_readEntries entries 0]
  rfl

/-- The places of the entries that are calls. -/
def places (entries : List Value) : List Nat := (AnyCall.readEntries 0 entries).map Prod.fst

/-- The places belong to the calls, one to each. -/
theorem readEntries_eq_zip {entries : List Value} (h : NoneOpenAi entries) :
    AnyCall.readEntries 0 entries = (places entries).zip (convert (.array entries)) := by
  rw [convert_eq h, ← AnyCall.map_snd_readEntries entries 0, places]
  exact List.zip_of_prod rfl rfl

/-- **The places are those of the compact calls.** -/
theorem mem_places {entries : List Value} (h : NoneOpenAi entries) {i : Nat} :
    i ∈ places entries
      ↔ ∃ entry call, entries[i]? = some entry ∧ CompactCall.decode.ofValue entry = .ok call := by
  unfold places
  rw [List.mem_map]
  constructor
  · rintro ⟨⟨place, call⟩, hmem, rfl⟩
    obtain ⟨entry, hentry, hcall⟩ := AnyCall.mem_readEntries.mp hmem
    cases hcall with
    | openAi hopenAi => exact absurd hopenAi (h entry (List.mem_of_getElem? hentry) _)
    | @compact call _ hcompact => exact ⟨entry, call, hentry, hcompact⟩
  · rintro ⟨entry, call, hentry, hcompact⟩
    have hother := h entry (List.mem_of_getElem? hentry)
    exact ⟨(i, call.toOpenAi),
      AnyCall.mem_readEntries.mpr ⟨entry, hentry, .compact hother hcompact⟩, rfl⟩

end CompactCall

/-! ## What is shown of them -/

/-- Of entries under different keys, the last one that a key picks out is the
one that is looked up. -/
theorem getLast?_filterMap_key {α β : Type} {entries : List (Nat × α)}
    (hnodup : (entries.map Prod.fst).Nodup) (i : Nat) (f : α → Option β) :
    (entries.filterMap fun entry => if entry.1 = i then f entry.2 else none).getLast?
      = (entries.lookup i).bind f := by
  induction entries with
  | nil => rfl
  | cons entry rest ih =>
    obtain ⟨place, a⟩ := entry
    rw [List.map_cons, List.nodup_cons] at hnodup
    rw [getLast?_filterMap_cons, ih hnodup.2, List.lookup_cons]
    by_cases hi : place = i
    · -- no other entry is under the key
      have hnone : rest.lookup i = none := by
        rw [List.lookup_eq_none_iff]
        intro other hother
        refine bne_iff_ne.mpr fun heq => hnodup.1 ?_
        rw [hi, heq]
        exact List.mem_map.mpr ⟨other, hother, rfl⟩
      rw [if_pos hi, hnone, hi, beq_self_eq_true]
      rfl
    · rw [if_neg hi, Option.or_none, beq_eq_false_iff_ne.mpr (Ne.symm hi)]

namespace Span

/-- **What calls show under a number** is the part of the call that has the
number, if it is below the limit. -/
theorem shown?_callSignals_lookup (limits : Limits) {calls : List (Nat × OpenAiCall)}
    (hnodup : (calls.map Prod.fst).Nodup) (part : CallPart) (i : Nat) :
    shown? (callSignals limits calls) (part.key i).text
      = (calls.lookup i).bind fun call =>
          if i < limits.indexedToolCalls.toNat then part.value? limits call else none := by
  rw [shown?_callSignals_key, ← getLast?_filterMap_key hnodup]
  refine congrArg List.getLast? (List.filterMap_congr fun entry _ => ?_)
  by_cases hi : entry.1 = i <;> by_cases hlimit : i < limits.indexedToolCalls.toNat <;>
    simp [hi, hlimit]

/-- Recording calls shows them, if there are any. -/
theorem shown?_recordCalls (span : Span) (calls : List (Nat × OpenAiCall)) (name : String) :
    shown? (span.recordCalls calls).signals name
      = if calls.isEmpty then none else shown? (callSignals span.limits calls) name := by
  rw [recordCalls_eq]
  split <;> rfl

/-- The text of a response is shown first, under its own key and no other. -/
theorem shown?_recordContent_append (span : Span) {content : String} (hne : content ≠ "")
    (signals : List Signal) (key : AttrKey) :
    shown? ((span.recordContent (some content)).signals ++ signals) key.text
      = (shown? signals key.text).or (if AttrKey.outputMessage = key then
          some (.text (Text.excerpt span.limits.outputChars.toNat content)) else none) := by
  have hsent : span.recordContent (some content) = span.send [.attribute .outputMessage
      (.text (Text.excerpt span.limits.outputChars.toNat content))] :=
    if_neg (by simpa using hne)
  rw [hsent, shown?_append]
  exact congrArg _ (shown?_singleton key .outputMessage _)

/-- **A response is shown with its calls**: its text, and of the calls the
number, the names, which are kept, and the single calls, each under its own
number. Without calls nothing is shown of any, and the names that were kept
before stay. -/
structure ShowsResponse (before : Span) (content : String) (numbers : List Nat)
    (calls : List OpenAiCall) (done : Recorded) : Prop where
  span : done.span = { before with
    toolNames := if calls.isEmpty then before.toolNames
      else calls.map fun call => call.canonical.name }
  message : shown? done.signals "llm.output.message"
    = some (.text (Text.excerpt before.limits.outputChars.toNat content))
  count : shown? done.signals "llm.tool_calls.count"
    = if calls.isEmpty then none else some (cappedCount calls.length)
  names : shown? done.signals "llm.tool_calls.names"
    = if calls.isEmpty then none
      else some (.text (String.intercalate "," (calls.map fun call => call.canonical.name)))
  single : ∀ (part : CallPart) (i : Nat), shown? done.signals (part.key i).text
    = ((numbers.zip calls).lookup i).bind fun call =>
        if i < before.limits.indexedToolCalls.toNat then part.value? before.limits call else none

/-- **A response whose calls are recorded under numbers** is shown with
them. -/
theorem showsResponse_of_recordCalls (before : Span) {content : String} (hne : content ≠ "")
    {numbers : List Nat} {calls : List OpenAiCall} (hnumbers : numbers.Pairwise (· < ·))
    (hlength : numbers.length = calls.length) :
    before.ShowsResponse content numbers calls
      ⟨(before.recordCalls (numbers.zip calls)).span,
        (before.recordContent (some content)).signals
          ++ (before.recordCalls (numbers.zip calls)).signals⟩ := by
  have hnodup : ((numbers.zip calls).map Prod.fst).Nodup := by
    rw [List.map_fst_zip (Nat.le_of_eq hlength)]
    exact hnumbers.imp Nat.ne_of_lt
  have hsnd : (numbers.zip calls).map Prod.snd = calls :=
    List.map_snd_zip (Nat.le_of_eq hlength.symm)
  have hcount : (numbers.zip calls).length = calls.length := by
    rw [List.length_zip, hlength, Nat.min_self]
  have hempty : (numbers.zip calls).isEmpty = calls.isEmpty := by
    rw [Bool.eq_iff_iff, List.isEmpty_iff_length_eq_zero, List.isEmpty_iff_length_eq_zero, hcount]
  have hnames : callNames (numbers.zip calls) = calls.map fun call => call.canonical.name := by
    conv_rhs => rw [← hsnd, List.map_map]
    rfl
  obtain ⟨hnumber, hjoined⟩ := shown?_callSignals before.limits (numbers.zip calls)
  refine ⟨?_, ?_, ?_, ?_, fun part i => ?_⟩
  · rw [recordCalls_eq, hempty, hnames]
    split <;> rfl
  · refine (before.shown?_recordContent_append hne _ .outputMessage).trans ?_
    rw [shown?_recordCalls, shown?_callSignals_of_not rfl, ite_self]
    rfl
  · refine (before.shown?_recordContent_append hne _ .toolCallCount).trans ?_
    rw [shown?_recordCalls, hempty, hnumber, hcount, AttrValue.ofCount_eq]
    exact Option.or_none
  · refine (before.shown?_recordContent_append hne _ .toolCallNames).trans ?_
    rw [shown?_recordCalls, hempty, hjoined, hnames]
    exact Option.or_none
  · have hkey : AttrKey.outputMessage ≠ part.key i := by
      cases part <;> exact AttrKey.noConfusion
    refine (before.shown?_recordContent_append hne _ _).trans ?_
    rw [shown?_recordCalls, shown?_callSignals_lookup _ hnodup, if_neg hkey, Option.or_none]
    split
    · rename_i hnil
      rw [List.isEmpty_iff.mp hnil]
      rfl
    · rfl

/-! ## Both paths -/

/-- What is recorded of a response whose calls are in its text. -/
theorem record_output_embedded (span : Span) {content : String} {v : Value} {entries : List Value}
    (hcontent : Value.ofText content = .ok v)
    (hmember : v.get? "tool_calls" = some (.array entries)) :
    let calls := CompactCall.convert (.array entries)
    span.record (.output (some content) none)
      = ⟨(span.recordCalls (enumerate calls)).span,
          (span.recordContent (some content)).signals
            ++ (span.recordCalls (enumerate calls)).signals⟩ := by
  have hcalls : embeddedCalls? content = some (CompactCall.convert (.array entries)) := by
    unfold embeddedCalls?
    rw [hcontent]
    exact congrArg (Option.map CompactCall.convert) hmember
  have hresponse : responseCalls (some content) none
      = enumerate (CompactCall.convert (.array entries)) :=
    congrArg (fun found : Option (List OpenAiCall) => enumerate (found.getD [])) hcalls
  intro calls
  show span.recordResponse (some content) none = _
  rw [recordResponse_eq, hresponse]

/-- What is recorded of a response whose calls are supplied beside the text
that they are in. -/
theorem record_output_supplied (span : Span) {content : String} {v : Value} {entries : List Value}
    (hcontent : Value.ofText content = .ok v)
    (hmember : v.get? "tool_calls" = some (.array entries)) :
    let calls := AnyCall.readEntries 0 entries
    span.record (.outputPayload (some content) (some (.array entries)))
      = ⟨(span.recordCalls calls).span,
          (span.recordContent (some content)).signals ++ (span.recordCalls calls).signals⟩ := by
  cases entries with
  | nil => exact span.record_output_embedded hcontent hmember
  | cons entry rest => exact span.recordResponse_eq (some content) (some _)

/-- **Calls inside a text are recorded as if they had been supplied beside it**,
if no entry has the OpenAI shape: both paths find the same calls, and show the
same text, number and names. Single calls are shown with the same parts, inside
a text under their number among the calls, and beside it under their place in
the list. -/
theorem embedded_or_supplied {span : Span} (hopen : span.isOpen = true) {content : String}
    {v : Value} {entries : List Value} (hnone : CompactCall.NoneOpenAi entries)
    (hcontent : Value.ofText content = .ok v)
    (hmember : v.get? "tool_calls" = some (.array entries)) :
    let calls := CompactCall.convert (.array entries)
    AnyCall.read (.array entries) = .ok calls
      ∧ ∃ places : List Nat, AnyCall.readIndexed (.array entries) = .ok (places.zip calls)
        ∧ places.length = calls.length
        ∧ places.Pairwise (· < ·)
        ∧ (∀ i, i ∈ places ↔ ∃ entry call,
          entries[i]? = some entry ∧ CompactCall.decode.ofValue entry = .ok call)
        ∧ span.ShowsResponse content (List.range calls.length) calls
          (span.set true (.output (some content) none))
        ∧ span.ShowsResponse content places calls
          (span.set true (.outputPayload (some content) (some (.array entries)))) := by
  intro calls
  have hne : content ≠ "" := by
    rintro rfl
    have hempty : Value.ofText "" = .error .truncated := by cbv
    rw [hempty] at hcontent
    cases hcontent
  have hread := CompactCall.readEntries_eq_zip hnone
  have hplaces := (positions_readEntries entries 0).1
  have hlength : (CompactCall.places entries).length = calls.length := by
    show _ = (CompactCall.convert (.array entries)).length
    rw [CompactCall.convert_eq hnone, ← AnyCall.map_snd_readEntries entries 0,
      CompactCall.places, List.length_map, List.length_map]
  refine ⟨CompactCall.read_eq_convert hnone, CompactCall.places entries,
    congrArg Except.ok hread, hlength, hplaces, fun i => CompactCall.mem_places hnone, ?_, ?_⟩
  · rw [set_of_open hopen, span.record_output_embedded hcontent hmember]
    exact span.showsResponse_of_recordCalls hne List.pairwise_lt_range List.length_range
  · rw [set_of_open hopen, span.record_output_supplied hcontent hmember, hread]
    exact span.showsResponse_of_recordCalls hne hplaces hlength

/-- Behind an entry that is no call, the second call is shown as the one with
number one if it was in the text, and in place two if it was supplied. -/
theorem embedded_or_supplied_gap :
    let entries : List Value := [
      .object [("name", .string "search"), ("parameters", .object [("q", .string "Lean")])],
      .object [("title", .string "no call")],
      .object [("name", .string "stop"), ("parameters", .null)]]
    let v : Value := .object [("tool_calls", .array entries)]
    let span := ((Instrumentor.ofConfig {}).start "gpt" "openai" none ⟨0⟩).span
    let embedded := span.set true (.output (some v.spaced) none)
    let supplied := span.set true (.outputPayload (some v.spaced) (some (.array entries)))
    (span.isOpen = true ∧ CompactCall.NoneOpenAi entries ∧ Value.ofText v.spaced = .ok v
        ∧ v.get? "tool_calls" = some (.array entries))
      ∧ embedded.span = supplied.span
      ∧ shown? embedded.signals "llm.tool_calls.1.name" = some (.text "stop")
      ∧ shown? supplied.signals "llm.tool_calls.2.name" = some (.text "stop")
      ∧ shown? supplied.signals "llm.tool_calls.1.name" = none := by
  intro entries v span embedded supplied
  have hnone : CompactCall.NoneOpenAi entries := by
    refine List.forall_mem_cons.mpr ⟨?_, List.forall_mem_cons.mpr
      ⟨?_, List.forall_mem_singleton.mpr ?_⟩⟩ <;>
    · intro call hcall
      cases hcall
  have hcontent : Value.ofText v.spaced = .ok v :=
    Value.Fits.ofText_write Layout.readable_spaced ⟨by decide, by decide, by decide⟩
  obtain ⟨-, places, hread, -, -, -, hembedded, hsupplied⟩ :=
    embedded_or_supplied (show span.isOpen = true from rfl) hnone hcontent rfl
  have hplaced : places.zip (CompactCall.convert (.array entries)) = [
      (0, OpenAiCall.ofFunction "search" (Value.object [("q", .string "Lean")]).spaced),
      (2, OpenAiCall.ofFunction "stop" (Value.object []).spaced)] :=
    (Except.ok.inj hread).symm.trans rfl
  refine ⟨⟨rfl, hnone, hcontent, rfl⟩, hembedded.span.trans hsupplied.span.symm,
    hembedded.single .name 1, ?_, ?_⟩
  · exact (hsupplied.single .name 2).trans (by rw [hplaced]; rfl)
  · exact (hsupplied.single .name 1).trans (by rw [hplaced]; rfl)

end Span
end CallScope
