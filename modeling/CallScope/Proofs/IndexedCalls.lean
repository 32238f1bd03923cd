import CallScope.Proofs.Agreement
import CallScope.Replay

/-!
# Calls under their positions

Recorded tool calls are shown in two ways: the first ones singly, each under
its position, and all of them together, by their number and their names.
When a list is recorded after another one, number and names are replaced as
a whole. Of the single calls only those are replaced that the new list sets
anew: what an earlier list has set under a position that the new one leaves
out, or as the arguments of a position whose call now has none, stays as it
is.

So what is shown of single calls describes the list recorded last
(`Describes`) if and only if that list leaves out nothing that any list
before it has set (`Covers`). `describes_iff_covers` says so for every
sequence of setters.
-/

namespace CallScope

/-! ## Parts of a call -/

/-- **What is shown of a single call.** -/
inductive CallPart where
  | name
  | arguments

namespace CallPart

/-- The key of a part of the call at a position. -/
def key : CallPart → Nat → AttrKey
  | .name => .toolCallName
  | .arguments => .toolCallArguments

/-- **What is to be shown of a part of a call**: its name, or as much of its
arguments as the limits allow, if it has any. -/
def value? (limits : Limits) (call : OpenAiCall) : CallPart → Option AttrValue
  | .name => some (.text call.canonical.name)
  | .arguments => call.canonical.arguments.map fun arguments =>
      .text (Text.excerpt limits.toolArgumentChars.toNat arguments)

theorem isCall_key (part : CallPart) (i : Nat) : (part.key i).isCall = true := by
  cases part <;> rfl

end CallPart

/-! ## What is shown of one list -/

/-- The last of some values: of those behind the first, or else the first. -/
theorem getLast?_filterMap_cons {α β : Type} (f : α → Option β) (x : α) (xs : List α) :
    ((x :: xs).filterMap f).getLast? = ((xs.filterMap f).getLast?).or (f x) := by
  rw [List.filterMap_cons]
  cases f x with
  | none => exact Option.or_none.symm
  | some y =>
    dsimp only
    rw [List.getLast?_cons]
    cases (xs.filterMap f).getLast? <;> rfl

/-- If the last of a list has a value, that is the last of the values. -/
theorem getLast?_filterMap_of_some {α β : Type} {f : α → Option β} {x : α} {y : β} {xs : List α}
    (hlast : xs.getLast? = some x) (hvalue : f x = some y) :
    (xs.filterMap f).getLast? = some y := by
  obtain ⟨earlier, rfl⟩ := List.getLast?_eq_some_iff.mp hlast
  rw [List.filterMap_append, List.getLast?_append, getLast?_filterMap_cons, hvalue]
  rfl

/-- Of signals that are sent piece by piece, what the last piece shows is
shown. -/
theorem shown?_flatMap {α : Type} (xs : List α) (send : α → List Signal) (name : String) :
    shown? (xs.flatMap send) name = (xs.filterMap fun x => shown? (send x) name).getLast? := by
  induction xs with
  | nil => rfl
  | cons x xs ih =>
    rw [List.flatMap_cons, shown?_append, ih, getLast?_filterMap_cons]

namespace Span

/-- A call is shown under its position and no other. -/
theorem shown?_callAttributes (limits : Limits) (index : Nat) (call : OpenAiCall)
    (part : CallPart) (i : Nat) :
    shown? (callAttributes limits index call.canonical) (part.key i).text
      = if index = i then part.value? limits call else none := by
  unfold callAttributes
  rw [shown?_cons]
  cases h : call.canonical.arguments with
  | none =>
    rw [Option.map_none, Option.toList_none, shown?_nil, Option.none_or]
    cases part with
    | name => simp [CallPart.key, CallPart.value?]
    | arguments => simp [CallPart.key, CallPart.value?, h]
  | some arguments =>
    rw [Option.map_some, Option.toList_some, shown?_singleton]
    cases part with
    | name => simp [CallPart.key, CallPart.value?]
    | arguments => simp [CallPart.key, CallPart.value?, h]

/-- **What a list of calls shows under a position.** -/
theorem shown?_callSignals_key (limits : Limits) (calls : List (Nat × OpenAiCall))
    (part : CallPart) (i : Nat) :
    shown? (callSignals limits calls) (part.key i).text
      = (calls.filterMap fun entry =>
          if entry.1 = i ∧ i < limits.indexedToolCalls.toNat then part.value? limits entry.2
          else none).getLast? := by
  have haggregate : ∀ (count names : AttrValue),
      shown? [.attribute .toolCallCount count, .attribute .toolCallNames names]
        (part.key i).text = none := by
    intro count names
    rw [shown?_cons, shown?_singleton]
    cases part <;> rfl
  have hentry : ∀ entry : Nat × OpenAiCall,
      shown? (if entry.1 < limits.indexedToolCalls.toNat then
          callAttributes limits entry.1 entry.2.canonical else []) (part.key i).text
        = if entry.1 = i ∧ i < limits.indexedToolCalls.toNat then part.value? limits entry.2
          else none := by
    intro entry
    by_cases hlimit : entry.1 < limits.indexedToolCalls.toNat
    · rw [if_pos hlimit, shown?_callAttributes]
      by_cases hi : entry.1 = i
      · rw [if_pos hi, if_pos ⟨hi, hi ▸ hlimit⟩]
      · rw [if_neg hi, if_neg fun h : entry.1 = i ∧ _ => hi h.1]
    · rw [if_neg hlimit, if_neg fun h : entry.1 = i ∧ _ => hlimit (h.1 ▸ h.2)]
      rfl
  unfold callSignals indexedAttributes
  rw [shown?_append, haggregate, Option.none_or, List.flatMap_map, shown?_flatMap]
  simp only [hentry]

/-- What a list shows under a position is a part of a call that it has
there. -/
theorem exists_of_shown?_callSignals {limits : Limits} {calls : List (Nat × OpenAiCall)}
    {part : CallPart} {i : Nat} {value : AttrValue}
    (h : shown? (callSignals limits calls) (part.key i).text = some value) :
    i < limits.indexedToolCalls.toNat
      ∧ ∃ call, (i, call) ∈ calls ∧ part.value? limits call = some value := by
  rw [shown?_callSignals_key] at h
  obtain ⟨entry, hentry, hvalue⟩ := List.mem_filterMap.mp (List.mem_of_getLast? h)
  split at hvalue
  · rename_i hposition
    obtain ⟨rfl, hlimit⟩ := hposition
    exact ⟨hlimit, entry.2, hentry, hvalue⟩
  · cases hvalue

/-- **A list shows something under a position** if it has a call there, within
the limit, that has the part. -/
theorem isSome_shown?_callSignals {limits : Limits} {calls : List (Nat × OpenAiCall)}
    {part : CallPart} {i : Nat} {call : OpenAiCall} (hcall : (i, call) ∈ calls)
    (hlimit : i < limits.indexedToolCalls.toNat)
    (hpart : (part.value? limits call).isSome = true) :
    (shown? (callSignals limits calls) (part.key i).text).isSome = true := by
  obtain ⟨value, hvalue⟩ := Option.isSome_iff_exists.mp hpart
  have hmem : value ∈ calls.filterMap fun entry =>
      if entry.1 = i ∧ i < limits.indexedToolCalls.toNat then part.value? limits entry.2
      else none :=
    List.mem_filterMap.mpr ⟨(i, call), hcall, (if_pos ⟨rfl, hlimit⟩).trans hvalue⟩
  rw [shown?_callSignals_key, List.getLast?_isSome]
  exact List.ne_nil_of_mem hmem

end Span

/-! ## What is shown of many lists -/

/-- **The lists of calls that setters record**, in their order. Lists without
calls are none. -/
def recordedLists (setters : List Setter) : List (List (Nat × OpenAiCall)) :=
  (setters.map Setter.calls).filter fun calls => !calls.isEmpty

/-- **The list that is recorded last**, empty if none is. -/
def lastRecorded (setters : List Setter) : List (Nat × OpenAiCall) :=
  (recordedLists setters).getLast?.getD []

theorem recordedLists_cons (setter : Setter) (setters : List Setter) :
    recordedLists (setter :: setters)
      = if setter.calls.isEmpty then recordedLists setters
        else setter.calls :: recordedLists setters := by
  unfold recordedLists
  rw [List.map_cons, List.filter_cons]
  cases setter.calls.isEmpty <;> rfl

/-- What is taken from lists that are recorded is taken from setters that
record any. -/
theorem filterMap_recordedLists {α : Type} (take : List (Nat × OpenAiCall) → Option α)
    (setters : List Setter) :
    (recordedLists setters).filterMap take
      = setters.filterMap fun setter =>
          if setter.calls.isEmpty then none else take setter.calls := by
  induction setters with
  | nil => rfl
  | cons setter setters ih =>
    rw [recordedLists_cons, List.filterMap_cons]
    by_cases h : setter.calls.isEmpty = true
    · rw [if_pos h, if_pos h, ih]
    · rw [if_neg h, if_neg h, List.filterMap_cons, ih]

namespace Span

/-- Recording in steps, grouped either way. -/
theorem andThen_assoc (first : Recorded) (second third : Span → Recorded) :
    (first.andThen second).andThen third
      = first.andThen fun span => (second span).andThen third := by
  unfold Recorded.andThen
  dsimp only
  rw [List.append_assoc]

/-- The first of several setters acts before the others. -/
theorem setAll_cons (span : Span) (recording : Bool) (setter : Setter) (setters : List Setter) :
    span.setAll recording (setter :: setters)
      = (span.set recording setter).andThen fun span => span.setAll recording setters := by
  have hfold : ∀ (setters : List Setter) (done : Recorded),
      setters.foldl (fun done setter => done.andThen fun span => span.set recording setter) done
        = done.andThen fun span => span.setAll recording setters := by
    intro setters
    induction setters with
    | nil =>
      intro done
      show done = ⟨done.span, done.signals ++ []⟩
      rw [List.append_nil]
    | cons setter setters ih =>
      intro done
      rw [List.foldl_cons, ih, andThen_assoc]
      refine congrArg done.andThen (funext fun span => ?_)
      exact (ih (span.set recording setter)).symm
  exact hfold setters (span.set recording setter)

/-- What a setter does to an open span whose handle records. -/
theorem set_of_active {span : Span} (h : span.isOpen = true) (setter : Setter) :
    span.set true setter = ⟨span.keep setter, (span.record setter).signals⟩ := by
  rw [set_of_open h, ← span_record]

/-- **What many setters show** is what the last of them shows that shows
anything. None of them looks at what another one has recorded. -/
theorem shown?_setAll {span : Span} (h : span.isOpen = true) (setters : List Setter)
    (name : String) :
    shown? (span.setAll true setters).signals name
      = (setters.filterMap fun setter => shown? (span.record setter).signals name).getLast? := by
  induction setters generalizing span with
  | nil => rfl
  | cons setter setters ih =>
    have hrest := ih (show (span.keep setter).isOpen = true from h)
    have hrecord := signals_record_congr (show (span.keep setter).limits = span.limits from rfl)
      (show (span.keep setter).operation = span.operation from rfl)
    simp only [hrecord] at hrest
    rw [setAll_cons, set_of_active h, Recorded.signals_andThen, shown?_append, hrest,
      getLast?_filterMap_cons]

/-- **What many setters show of calls** is what the last of their lists shows
that shows anything. -/
theorem shown?_setAll_of_isCall {span : Span} (h : span.isOpen = true) (setters : List Setter)
    {key : AttrKey} (hkey : key.isCall = true) :
    shown? (span.setAll true setters).signals key.text
      = ((recordedLists setters).filterMap fun calls =>
          shown? (callSignals span.limits calls) key.text).getLast? := by
  rw [shown?_setAll h, filterMap_recordedLists]
  simp only [shown?_record_of_isCall span _ hkey]

/-- **What many setters keep**: the usage that is stored last, and the names of
the list that is recorded last. -/
theorem span_setAll {span : Span} (h : span.isOpen = true) (setters : List Setter) :
    (span.setAll true setters).span = { span with
      usage := (setters.filterMap Setter.usage?).getLast?.or span.usage
      toolNames := ((recordedLists setters).getLast?.map callNames).getD span.toolNames } := by
  induction setters generalizing span with
  | nil => rfl
  | cons setter setters ih =>
    have hrest := ih (show (span.keep setter).isOpen = true from h)
    rw [setAll_cons, set_of_active h, Recorded.span_andThen, hrest, recordedLists_cons,
      getLast?_filterMap_cons, Option.or_assoc]
    dsimp only [keep]
    split
    · rfl
    · rw [List.getLast?_cons]
      cases (recordedLists setters).getLast? <;> rfl

end Span

/-! ## Positions -/

/-- The positions of entries that are read go up. -/
theorem positions_readEntries (entries : List Json.Value) (index : Nat) :
    ((AnyCall.readEntries index entries).map Prod.fst).Pairwise (· < ·)
      ∧ ∀ i ∈ (AnyCall.readEntries index entries).map Prod.fst, index ≤ i := by
  induction entries generalizing index with
  | nil => exact ⟨List.Pairwise.nil, by simp [AnyCall.readEntries]⟩
  | cons entry rest ih =>
    obtain ⟨hup, hfrom⟩ := ih (index + 1)
    unfold AnyCall.readEntries
    cases AnyCall.ofEntry? entry with
    | none => exact ⟨hup, fun i hi => Nat.le_of_succ_le (hfrom i hi)⟩
    | some call =>
      dsimp only
      rw [List.map_cons]
      refine ⟨List.pairwise_cons.mpr ⟨hfrom, hup⟩, fun i hi => ?_⟩
      rcases List.mem_cons.mp hi with rfl | hi
      · exact Nat.le_refl _
      · exact Nat.le_of_succ_le (hfrom i hi)

theorem positions_enumerate (calls : List OpenAiCall) :
    ((Span.enumerate calls).map Prod.fst).Pairwise (· < ·) := by
  unfold Span.enumerate
  rw [List.map_fst_zip (by simp)]
  exact List.pairwise_lt_range

theorem positions_payloadCalls (payload : Json.Value) :
    ((Span.payloadCalls payload).map Prod.fst).Pairwise (· < ·) := by
  unfold Span.payloadCalls AnyCall.readIndexed
  split
  · exact (positions_readEntries _ 0).1
  · exact List.Pairwise.nil

/-- **No setter records two calls under one position.** -/
theorem positions_calls (setter : Setter) :
    (setter.calls.map Prod.fst).Pairwise (· < ·) := by
  have hresponse : ∀ (content : Option String) (supplied : Option (List (Nat × OpenAiCall))),
      (∀ calls ∈ supplied, (calls.map Prod.fst).Pairwise (· < ·)) →
      ((Span.responseCalls content supplied).map Prod.fst).Pairwise (· < ·) := by
    intro content supplied h
    cases supplied with
    | some calls => exact h calls rfl
    | none => exact positions_enumerate _
  cases setter with
  | output content calls =>
    refine hresponse _ _ (fun calls hcalls => ?_)
    obtain ⟨supplied, -, rfl⟩ := Option.map_eq_some_iff.mp hcalls
    exact positions_enumerate supplied
  | outputPayload content calls =>
    refine hresponse _ _ (fun calls hcalls => ?_)
    obtain ⟨payload, -, rfl⟩ := Option.map_eq_some_iff.mp hcalls
    exact positions_payloadCalls payload
  | toolCalls calls => exact positions_enumerate calls
  | toolCallsPayload payload => exact positions_payloadCalls payload
  | _ => exact List.Pairwise.nil

/-- The list that is recorded last has its calls under different
positions. -/
theorem nodup_lastRecorded (setters : List Setter) :
    ((lastRecorded setters).map Prod.fst).Nodup := by
  unfold lastRecorded
  cases h : (recordedLists setters).getLast? with
  | none => exact List.Pairwise.nil
  | some calls =>
    obtain ⟨hcalls, -⟩ := List.mem_filter.mp (List.mem_of_getLast? h)
    obtain ⟨setter, -, rfl⟩ := List.mem_map.mp hcalls
    exact (positions_calls setter).imp Nat.ne_of_lt

/-! ## Describing the last list -/

/-- **What is shown of single calls describes a list**: whatever is shown of
a part of the call at a position is that part of the call which the list has
there. -/
def Describes (limits : Limits) (calls : List (Nat × OpenAiCall)) (signals : List Signal) : Prop :=
  ∀ (part : CallPart) (i : Nat) (value : AttrValue),
    shown? signals (part.key i).text = some value →
    ∃ call, (i, call) ∈ calls ∧ part.value? limits call = some value

/-- **A list covers others**: whatever part of a call any of them has under a
position that is shown, the list has some call there with that part. Since
every call has a name, it has a call wherever one of the others has one, and
one with arguments wherever one of them has one with arguments. -/
def Covers (limits : Limits) (calls : List (Nat × OpenAiCall))
    (others : List (List (Nat × OpenAiCall))) : Prop :=
  ∀ other ∈ others, ∀ entry ∈ other, entry.1 < limits.indexedToolCalls.toNat →
    ∀ part : CallPart, (part.value? limits entry.2).isSome = true →
      ∃ call, (entry.1, call) ∈ calls ∧ (part.value? limits call).isSome = true

namespace Instrumentor

/-- **Setters on a span that was just opened** and whose handle records. -/
def startSetting (inst : Instrumentor) (model provider : String) (operation : Option String)
    (opened : Moment) (setters : List Setter) : Span.Recorded :=
  (inst.start model provider operation opened).andThen fun span => span.setAll true setters

section Setting

variable (inst : Instrumentor) (model provider : String) (operation : Option String)
  (opened : Moment) (setters : List Setter)

/-- The names that are kept are those of the list recorded last. -/
theorem toolNames_startSetting :
    (inst.startSetting model provider operation opened setters).span.toolNames
      = Span.callNames (lastRecorded setters) := by
  obtain ⟨hopen, -, hnames, -⟩ := inst.span_start model provider operation opened
  unfold startSetting lastRecorded
  rw [Span.Recorded.span_andThen, Span.span_setAll hopen, hnames]
  cases (recordedLists setters).getLast? <;> rfl

/-- What setters show of calls is what the last of their lists shows that
shows anything. -/
theorem shown?_startSetting {key : AttrKey} (hkey : key.isCall = true) :
    shown? (inst.startSetting model provider operation opened setters).signals key.text
      = ((recordedLists setters).filterMap fun calls =>
          shown? (Span.callSignals inst.limits calls) key.text).getLast? := by
  obtain ⟨hopen, -, -, hlimits, -⟩ := inst.span_start model provider operation opened
  have hstart : shown? (inst.start model provider operation opened).signals key.text = none := by
    refine shown?_eq_none (fun value hmem => ?_)
    have hidentity := isIdentity_of_mem_start hmem
    cases key <;> first | exact Bool.noConfusion hkey | exact Bool.noConfusion hidentity
  unfold startSetting
  rw [Span.Recorded.signals_andThen, shown?_append, hstart, Option.or_none,
    Span.shown?_setAll_of_isCall hopen setters hkey, hlimits]

/-- What every list shows is shown of the list recorded last. -/
theorem shown?_startSetting_of_some {key : AttrKey} (hkey : key.isCall = true)
    {value : List (Nat × OpenAiCall) → AttrValue}
    (hvalue : ∀ calls, shown? (Span.callSignals inst.limits calls) key.text
      = some (value calls)) :
    shown? (inst.startSetting model provider operation opened setters).signals key.text
      = if (lastRecorded setters).isEmpty then none else some (value (lastRecorded setters)) := by
  rw [shown?_startSetting inst model provider operation opened setters hkey]
  unfold lastRecorded
  cases hlast : (recordedLists setters).getLast? with
  | none =>
    rw [List.getLast?_eq_none_iff.mp hlast]
    rfl
  | some last =>
    obtain ⟨-, hne⟩ := List.mem_filter.mp (List.mem_of_getLast? hlast)
    rw [getLast?_filterMap_of_some hlast (hvalue last), Option.getD_some,
      if_neg (by simpa using hne)]

/-- **The calls that are shown describe the list recorded last if and only if
that list covers all that were recorded.** -/
theorem describes_iff_covers :
    Describes inst.limits (lastRecorded setters)
        (inst.startSetting model provider operation opened setters).signals
      ↔ Covers inst.limits (lastRecorded setters) (recordedLists setters) := by
  have hshown := fun (part : CallPart) (i : Nat) =>
    inst.shown?_startSetting model provider operation opened setters (part.isCall_key i)
  constructor
  · intro h other hother entry hentry hlimit part hpart
    -- something is shown under the position, and so the last list has it
    obtain ⟨value, hvalue⟩ :=
      Option.isSome_iff_exists.mp (Span.isSome_shown?_callSignals hentry hlimit hpart)
    have hmem : value ∈ (recordedLists setters).filterMap fun calls =>
        shown? (Span.callSignals inst.limits calls) (part.key entry.1).text :=
      List.mem_filterMap.mpr ⟨other, hother, hvalue⟩
    obtain ⟨value, hvalue⟩ :=
      Option.isSome_iff_exists.mp (List.getLast?_isSome.mpr (List.ne_nil_of_mem hmem))
    obtain ⟨call, hcall, hpart⟩ := h part entry.1 value ((hshown part entry.1).trans hvalue)
    exact ⟨call, hcall, hpart ▸ rfl⟩
  · intro h part i value hvalue
    rw [hshown part i] at hvalue
    obtain ⟨other, hother, hpart⟩ := List.mem_filterMap.mp (List.mem_of_getLast? hvalue)
    obtain ⟨hlimit, first, hfirst, hpart⟩ := Span.exists_of_shown?_callSignals hpart
    obtain ⟨call, hcall, hpart⟩ := h other hother (i, first) hfirst hlimit part (hpart ▸ rfl)
    -- the last list shows something there itself, and that replaces the rest
    have hsome := Span.isSome_shown?_callSignals hcall hlimit hpart
    unfold lastRecorded at hsome ⊢
    cases hlast : (recordedLists setters).getLast? with
    | none =>
      rw [List.getLast?_eq_none_iff.mp hlast] at hother
      cases hother
    | some last =>
      rw [hlast, Option.getD_some] at hsome
      obtain ⟨shown, hshown⟩ := Option.isSome_iff_exists.mp hsome
      rw [getLast?_filterMap_of_some hlast hshown] at hvalue
      cases hvalue
      exact (Span.exists_of_shown?_callSignals hshown).2

end Setting

/-- **What is shown of calls**: their number and their names, which are those
of the list recorded last, as are the names that are kept; and the calls
under their positions, which are those of that list if and only if it covers
all that were recorded. -/
theorem startSetting_calls (inst : Instrumentor) (model provider : String)
    (operation : Option String) (opened : Moment) (setters : List Setter) :
    let done := inst.startSetting model provider operation opened setters
    let last := lastRecorded setters
    done.span.toolNames = Span.callNames last
      ∧ shown? done.signals "llm.tool_calls.count"
        = (if last.isEmpty then none else some (.ofCount last.length))
      ∧ shown? done.signals "llm.tool_calls.names"
        = (if last.isEmpty then none
          else some (.text (String.intercalate "," (Span.callNames last))))
      ∧ (last.map Prod.fst).Nodup
      ∧ (Describes inst.limits last done.signals
        ↔ Covers inst.limits last (recordedLists setters)) := by
  have hcount := inst.shown?_startSetting_of_some model provider operation opened setters
    (show AttrKey.toolCallCount.isCall = true from rfl)
    fun calls => (Span.shown?_callSignals inst.limits calls).1
  have hnames := inst.shown?_startSetting_of_some model provider operation opened setters
    (show AttrKey.toolCallNames.isCall = true from rfl)
    fun calls => (Span.shown?_callSignals inst.limits calls).2
  exact ⟨inst.toolNames_startSetting model provider operation opened setters, hcount, hnames,
    nodup_lastRecorded setters, inst.describes_iff_covers model provider operation opened setters⟩

/-- **Arguments are left behind** where a call without arguments is recorded
over one that has some: they are shown beside a name that is not of their
call. -/
theorem arguments_left_behind :
    let setters : List Setter := [
      .toolCalls [.ofFunction "first" "\x7b\x7d"],
      .toolCalls [⟨none, OpenAiCall.defaultKind, ⟨some "second", none⟩⟩]]
    let inst := Instrumentor.ofConfig {}
    let done := inst.startSetting "gpt" "openai" none ⟨0⟩ setters
    shown? done.signals "llm.tool_calls.0.name" = some (.text "second")
      ∧ shown? done.signals "llm.tool_calls.0.arguments" = some (.text "\x7b\x7d")
      ∧ ¬Describes inst.limits (lastRecorded setters) done.signals := by
  intro setters inst done
  have harguments : shown? done.signals "llm.tool_calls.0.arguments"
      = some (.text "\x7b\x7d") := by decide +kernel
  refine ⟨by decide +kernel, harguments, fun h => ?_⟩
  have hlast : lastRecorded setters
      = [(0, ⟨none, OpenAiCall.defaultKind, ⟨some "second", none⟩⟩)] := rfl
  obtain ⟨call, hcall, hvalue⟩ := h .arguments 0 _ harguments
  rw [hlast, List.mem_singleton] at hcall
  cases hcall
  cases hvalue

end Instrumentor
end CallScope
