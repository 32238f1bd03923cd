import CallScope.Proofs.CallForms
import CallScope.Proofs.IndexedCalls

/-!
# The calls of a list, entry by entry

A list of tool calls that is not decoded holds calls of two shapes and
whatever else a model writes. What an entry is does not depend on the others
(`IsCall`), so reading a list is reading its entries one by one, each under
its place (`AnyCall.readEntries_eq`). Everything else follows from that
equation: which entries are calls, that each of them is read once and in its
place, and that a list in two parts is read part by part, the places of the
second part coming behind those of the first.

What is recorded of the calls keeps these places. The limit on calls that are
shown singly is a bound on places and not on a number of calls, while the
number and the names are those of all calls (`Span.set_callsPayload`).
-/

namespace CallScope

open Json Decode

/-- **The call that an entry is**: in the OpenAI shape it is kept as it is; a
compact call is converted, if the entry has not the other shape as well. -/
inductive IsCall (entry : Value) : OpenAiCall → Prop where
  | openAi {call : OpenAiCall} (h : OpenAiCall.decode.ofValue entry = .ok call) :
    IsCall entry call
  | compact {call : CompactCall} (hother : ∀ c, OpenAiCall.decode.ofValue entry ≠ .ok c)
    (h : CompactCall.decode.ofValue entry = .ok call) : IsCall entry call.toOpenAi

namespace AnyCall

/-! ## One entry -/

/-- **An entry is read in the OpenAI shape**, and only failing that in the
compact one. -/
theorem decode_ofValue (entry : Value) :
    decode.ofValue entry
      = match OpenAiCall.decode.ofValue entry with
        | .ok call => .ok (.openAi call)
        | .error _ =>
          match CompactCall.decode.ofValue entry with
          | .ok call => .ok (.compact call)
          | .error _ => mismatch (.noVariant "AnyToolCall") := by
  unfold decode
  rw [untagged_ofValue]
  simp only [firstOf, Decoder.map, Decoder.ofValue]
  cases OpenAiCall.decode .settled (.ofValue entry) with
  | ok call => rfl
  | error fault => cases CompactCall.decode .settled (.ofValue entry) <;> rfl

/-- What an entry is read as is the call that it is. -/
theorem ofEntry?_eq_some_iff {entry : Value} {call : OpenAiCall} :
    ofEntry? entry = some call ↔ IsCall entry call := by
  unfold ofEntry?
  rw [decode_ofValue]
  constructor
  · intro h
    cases hopenAi : OpenAiCall.decode.ofValue entry with
    | ok c =>
      rw [hopenAi] at h
      cases h
      exact .openAi hopenAi
    | error fault =>
      rw [hopenAi] at h
      cases hcompact : CompactCall.decode.ofValue entry with
      | ok c =>
        rw [hcompact] at h
        cases h
        exact .compact (fun c hc => by rw [hopenAi] at hc; cases hc) hcompact
      | error fault =>
        rw [hcompact] at h
        cases h
  · intro h
    cases h with
    | openAi h => rw [h]; rfl
    | @compact c hother h =>
      cases hopenAi : OpenAiCall.decode.ofValue entry with
      | ok c => exact absurd hopenAi (hother c)
      | error fault =>
        dsimp only
        rw [h]
        rfl

/-- An entry that has not the OpenAI shape is the compact call that it is, if
it is one. -/
theorem ofEntry?_of_not_openAi {entry : Value}
    (h : ∀ c, OpenAiCall.decode.ofValue entry ≠ .ok c) :
    ofEntry? entry = (CompactCall.decode.ofValue entry).toOption.map CompactCall.toOpenAi := by
  unfold ofEntry?
  rw [decode_ofValue]
  cases hopenAi : OpenAiCall.decode.ofValue entry with
  | ok c => exact absurd hopenAi (h c)
  | error fault => cases CompactCall.decode.ofValue entry <;> rfl

/-! ## All entries -/

/-- **Entries are read one by one**, each under its place. -/
theorem readEntries_eq (entries : List Value) (index : Nat) :
    readEntries index entries
      = (entries.zipIdx index).filterMap fun entry =>
          ( ofEntry? entry.1).map fun call => (entry.2, call) := by
  induction entries generalizing index with
  | nil => rfl
  | cons entry rest ih =>
    rw [readEntries, List.zipIdx_cons, List.filterMap_cons, ih]
    cases ofEntry? entry <;> rfl

/-- **The calls that are read** are the entries that are calls, under their
places. -/
theorem mem_readEntries {entries : List Value} {i : Nat} {call : OpenAiCall} :
    (i, call) ∈ readEntries 0 entries ↔ ∃ entry, entries[i]? = some entry ∧ IsCall entry call := by
  simp only [readEntries_eq, List.mem_filterMap, Option.map_eq_some_iff, Prod.exists,
    List.mk_mem_zipIdx_iff_getElem?, ofEntry?_eq_some_iff, Prod.mk.injEq]
  constructor
  · rintro ⟨entry, place, hentry, c, hcall, rfl, rfl⟩
    exact ⟨entry, hentry, hcall⟩
  · rintro ⟨entry, hentry, hcall⟩
    exact ⟨entry, i, hentry, call, hcall, rfl, rfl⟩

/-- Without their places, the calls are what the entries are read as. -/
theorem map_snd_readEntries (entries : List Value) (index : Nat) :
    (readEntries index entries).map Prod.snd = entries.filterMap ofEntry? := by
  have hentry : ∀ entry : Value × Nat,
      (( ofEntry? entry.1).map fun call => (entry.2, call)).map Prod.snd = ofEntry? entry.1 := by
    intro entry
    cases ofEntry? entry.1 <;> rfl
  have hfirst := congrArg (List.filterMap ofEntry?) (List.zipIdx_map_fst index entries)
  rw [List.filterMap_map] at hfirst
  rw [readEntries_eq, List.map_filterMap]
  simp only [hentry]
  exact hfirst

/-- Starting at another place shifts all places. -/
theorem readEntries_shift (entries : List Value) (index : Nat) :
    readEntries index entries
      = (readEntries 0 entries).map fun entry => (entry.1 + index, entry.2) := by
  simp only [readEntries_eq]
  rw [List.zipIdx_eq_map_add, List.filterMap_map, List.map_filterMap]
  refine List.filterMap_congr fun entry _ => ?_
  show Option.map _ ( ofEntry? entry.1) = _
  cases ofEntry? entry.1 with
  | none => rfl
  | some call =>
    show some (index + entry.2, call) = some (entry.2 + index, call)
    rw [Nat.add_comm]

/-- **A list in two parts is read part by part.** -/
theorem readEntries_append (entries others : List Value) :
    readEntries 0 (entries ++ others)
      = readEntries 0 entries
        ++ (readEntries 0 others).map fun entry => (entry.1 + entries.length, entry.2) := by
  rw [← readEntries_shift]
  simp only [readEntries_eq]
  rw [List.zipIdx_append, List.filterMap_append, Nat.zero_add]

end AnyCall

namespace Span

/-! ## Recording what was read -/

/-- The attributes of single calls: the parts that a call has, under its
place, if that is below the limit. -/
def singleAttributes (limits : Limits) (calls : List (Nat × OpenAiCall)) : List Signal :=
  (calls.filter fun entry => entry.1 < limits.indexedToolCalls.toNat).flatMap fun entry =>
    [CallPart.name, .arguments].filterMap fun part =>
      (part.value? limits entry.2).map (Signal.attribute (part.key entry.1))

/-- **What is sent of calls** are the attributes of single calls, then the
number and the names of all. -/
theorem callSignals_eq (limits : Limits) (calls : List (Nat × OpenAiCall)) :
    callSignals limits calls = singleAttributes limits calls ++ [
      .attribute .toolCallCount (cappedCount calls.length),
      .attribute .toolCallNames (.text (String.intercalate "," (callNames calls)))] := by
  have hparts : ∀ entry : Nat × OpenAiCall,
      callAttributes limits entry.1 entry.2.canonical
        = [CallPart.name, .arguments].filterMap fun part =>
          (part.value? limits entry.2).map (Signal.attribute (part.key entry.1)) := by
    intro entry
    unfold callAttributes
    simp only [CallPart.value?, CallPart.key, List.filterMap_cons, List.filterMap_nil,
      Option.map_some]
    cases entry.2.canonical.arguments <;> rfl
  have hsingle : indexedAttributes limits (calls.map fun entry => (entry.1, entry.2.canonical))
      = singleAttributes limits calls := by
    unfold indexedAttributes singleAttributes
    rw [List.flatMap_map]
    simp only [hparts]
    induction calls with
    | nil => rfl
    | cons entry rest ih =>
      rw [List.flatMap_cons, List.filter_cons, ih]
      by_cases hlimit : entry.1 < limits.indexedToolCalls.toNat
      · rw [if_pos hlimit, if_pos (decide_eq_true hlimit), List.flatMap_cons]
      · rw [if_neg hlimit, if_neg (by simpa using hlimit), List.nil_append]
  rw [← AttrValue.ofCount_eq]
  exact congrArg (· ++ _) hsingle

/-- **Tool calls that are set as a list that is not decoded**: reading the list
never fails. It finds the entries that are calls, each once and in its place,
and a list in two parts is read part by part. If there are calls, an open span
whose handle records shows the parts of those below the limit singly, and then
the number and the names of all, which it keeps; if there are none, nothing
happens. -/
theorem set_callsPayload {span : Span} (hopen : span.isOpen = true) (entries : List Value) :
    ∃ calls : List (Nat × OpenAiCall),
      AnyCall.readIndexed (.array entries) = .ok calls
      ∧ AnyCall.read (.array entries) = .ok (calls.map Prod.snd)
      ∧ (calls.map Prod.fst).Pairwise (· < ·)
      ∧ (∀ i call, (i, call) ∈ calls ↔ ∃ entry, entries[i]? = some entry ∧ IsCall entry call)
      ∧ (∀ others, ∃ more,
        AnyCall.readIndexed (.array others) = .ok more
          ∧ AnyCall.readIndexed (.array (entries ++ others))
            = .ok (calls ++ more.map fun entry => (entry.1 + entries.length, entry.2)))
      ∧ span.set true (.toolCallsPayload (.array entries))
        = if calls.isEmpty then ⟨span, []⟩
          else
            let names := calls.map fun entry => entry.2.function.name.getD "unknown"
            ⟨{ span with toolNames := names },
              singleAttributes span.limits calls ++ [
                .attribute .toolCallCount (cappedCount calls.length),
                .attribute .toolCallNames (.text (String.intercalate "," names))]⟩ := by
  refine ⟨AnyCall.readEntries 0 entries, rfl, rfl, (positions_readEntries entries 0).1,
    fun i call => AnyCall.mem_readEntries,
    fun others => ⟨AnyCall.readEntries 0 others, rfl, ?_⟩, ?_⟩
  · exact congrArg Except.ok (AnyCall.readEntries_append entries others)
  · have hrecord : span.record (.toolCallsPayload (.array entries))
        = span.recordCalls (AnyCall.readEntries 0 entries) := rfl
    rw [set_of_open hopen, hrecord, recordCalls_eq, callSignals_eq]
    rfl

/-- With a limit of two, of two calls between entries that are none, the first
is shown under its place and the second, whose place is beyond the limit, in
the number and the names alone. -/
theorem set_callsPayload_gaps :
    let entries : List Value := [
      .string "not a call",
      .object [("function", .object [("arguments", .object [])])],
      .null,
      .array [.string "search", .null]]
    let limits : Limits := { indexedToolCalls := 2 }
    let span : Span :=
      { ((Instrumentor.ofConfig {}).start "gpt" "openai" none ⟨0⟩).span with limits }
    span.isOpen = true
      ∧ (span.set true (.toolCallsPayload (.array entries))).span.toolNames = ["unknown", "search"]
      ∧ (span.set true (.toolCallsPayload (.array entries))).signals = [
        .attribute (.toolCallName 1) (.text "unknown"),
        .attribute (.toolCallArguments 1) (.text "\x7b\x7d"),
        .attribute .toolCallCount (.int 2),
        .attribute .toolCallNames (.text "unknown,search")] := by
  intro entries limits span
  obtain ⟨calls, hread, -, -, -, -, hset⟩ :=
    set_callsPayload (show span.isOpen = true from rfl) entries
  have hcalls : calls = [
      (1, ⟨none, OpenAiCall.defaultKind, ⟨none, some (.object [])⟩⟩),
      (3, OpenAiCall.ofFunction "search" "\x7b\x7d")] := by
    cases hread
    rfl
  subst hcalls
  rw [hset]
  exact ⟨rfl, rfl, by decide +kernel⟩

end Span
end CallScope
