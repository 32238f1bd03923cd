import CallScope.Proofs.KeyNames
import CallScope.Proofs.Setting

/-!
# What a backend shows

A backend that keeps the last value under each name shows, of a list of
signals, the last value that was set under a name and nothing of what was
set before it (`shown?`). It knows keys by their names only. Since no two
keys have one name, what it shows under the name of a key is the last value
of that very key.

What is shown of a setter falls into three parts that share no key: usage,
asides, and tool calls. Under a key of the first kind the setter shows the
usage it stores (`shown?_record_of_isUsage`), and under one of the last kind
the calls it records (`shown?_record_of_isCall`).
-/

namespace CallScope

/-- The value that a signal sets under a name. -/
def Signal.valueUnder? (name : String) : Signal → Option AttrValue
  | .handle (.setAttribute key value) => if key.text = name then some value else none
  | _ => none

/-- **What is shown under a name**: the last value that was set. -/
def shown? (signals : List Signal) (name : String) : Option AttrValue :=
  (signals.filterMap (Signal.valueUnder? name)).getLast?

@[simp] theorem shown?_nil (name : String) : shown? [] name = none := rfl

/-- **Later values replace earlier ones.** -/
theorem shown?_append (first second : List Signal) (name : String) :
    shown? (first ++ second) name = (shown? second name).or (shown? first name) := by
  unfold shown?
  rw [List.filterMap_append, List.getLast?_append]

/-- Of a single attribute its value is shown, under its key and no other. -/
theorem shown?_singleton (key other : AttrKey) (value : AttrValue) :
    shown? [.attribute other value] key.text = if other = key then some value else none := by
  have hname : (Signal.attribute other value).valueUnder? key.text
      = if other = key then some value else none := by
    show (if other.text = key.text then some value else none) = _
    by_cases h : other = key
    · rw [if_pos h, if_pos (congrArg _ h)]
    · rw [if_neg h, if_neg fun htext => h (AttrKey.text_injective htext)]
  unfold shown?
  rw [List.filterMap_cons, hname]
  by_cases h : other = key
  · rw [if_pos h]
    rfl
  · rw [if_neg h]
    rfl

/-- Attributes one after another. -/
theorem shown?_cons (key other : AttrKey) (value : AttrValue) (rest : List Signal) :
    shown? (.attribute other value :: rest) key.text
      = (shown? rest key.text).or (if other = key then some value else none) := by
  rw [← List.singleton_append, shown?_append, shown?_singleton]

/-- Nothing is shown under a key that was not set. -/
theorem shown?_eq_none {signals : List Signal} {key : AttrKey}
    (h : ∀ value, Signal.attribute key value ∉ signals) : shown? signals key.text = none := by
  unfold shown?
  rw [List.filterMap_eq_nil_iff.mpr, List.getLast?_nil]
  intro signal hs
  unfold Signal.valueUnder?
  split
  · rename_i other value
    refine if_neg fun htext => ?_
    rw [AttrKey.text_injective htext] at hs
    exact h value hs
  · rfl

/-- What is shown was set, under a key of that name. -/
theorem exists_of_shown? {signals : List Signal} {name : String} {value : AttrValue}
    (h : shown? signals name = some value) :
    ∃ key : AttrKey, key.text = name ∧ Signal.attribute key value ∈ signals := by
  obtain ⟨signal, hmem, hvalue⟩ := List.mem_filterMap.mp (List.mem_of_getLast? h)
  unfold Signal.valueUnder? at hvalue
  split at hvalue
  · rename_i key _
    split at hvalue
    · rename_i hname
      cases hvalue
      exact ⟨key, hname, hmem⟩
    · cases hvalue
  · cases hvalue

/-! ## What is shown of a setter -/

namespace Span

/-- Usage shows nothing under other keys. -/
theorem shown?_usageSignals_of_not {key : AttrKey} (h : key.isUsage = false) (usage : Usage) :
    shown? (usageSignals usage) key.text = none := by
  refine shown?_eq_none (fun value hmem => ?_)
  obtain ⟨other, value, heq, hother⟩ := exists_of_mem_usageSignals hmem
  cases heq
  exact Bool.noConfusion (h.symm.trans hother)

/-- Calls show nothing under other keys. -/
theorem shown?_callSignals_of_not {key : AttrKey} (h : key.isCall = false) (limits : Limits)
    (calls : List (Nat × OpenAiCall)) : shown? (callSignals limits calls) key.text = none := by
  refine shown?_eq_none (fun value hmem => ?_)
  obtain ⟨other, value, heq, hother⟩ := exists_of_mem_callSignals hmem
  cases heq
  exact Bool.noConfusion (h.symm.trans hother)

/-- **Under a key that is no aside**, a setter shows the calls it records
and the usage it stores. -/
theorem shown?_record (span : Span) (setter : Setter) {key : AttrKey} (h : key.isAside = false) :
    shown? (span.record setter).signals key.text
      = (shown? (if setter.calls.isEmpty then [] else callSignals span.limits setter.calls)
          key.text).or
        (shown? ((setter.usage?.map usageSignals).getD []) key.text) := by
  obtain ⟨asides, heq⟩ := record_eq setter
  have hasides : shown? (asides.signals span) key.text = none :=
    shown?_eq_none fun value hmem => Bool.noConfusion (h.symm.trans (asides.isAside span _ hmem))
  rw [heq]
  show shown? (settingSignals setter asides span) key.text = _
  unfold settingSignals
  rw [shown?_append, shown?_append, hasides, Option.none_or]

/-- **Token counts are shown of the usage** that a setter stores. -/
theorem shown?_record_of_isUsage (span : Span) (setter : Setter) {key : AttrKey}
    (h : key.isUsage = true) :
    shown? (span.record setter).signals key.text
      = setter.usage?.bind fun usage => shown? (usageSignals usage) key.text := by
  have hkey : key.isAside = false ∧ key.isCall = false := by
    cases key <;> first | exact ⟨rfl, rfl⟩ | cases h
  have hcalls : shown? (if setter.calls.isEmpty then [] else callSignals span.limits setter.calls)
      key.text = none := by
    split
    · rfl
    · exact shown?_callSignals_of_not hkey.2 _ _
  rw [shown?_record span setter hkey.1, hcalls, Option.none_or]
  cases setter.usage? <;> rfl

/-- **Tool calls are shown of the calls** that a setter records, if there
are any. -/
theorem shown?_record_of_isCall (span : Span) (setter : Setter) {key : AttrKey}
    (h : key.isCall = true) :
    shown? (span.record setter).signals key.text
      = if setter.calls.isEmpty then none
        else shown? (callSignals span.limits setter.calls) key.text := by
  have hkey : key.isAside = false ∧ key.isUsage = false := by
    cases key <;> first | exact ⟨rfl, rfl⟩ | cases h
  have husage : shown? ((setter.usage?.map usageSignals).getD []) key.text = none := by
    cases setter.usage? with
    | none => rfl
    | some usage => exact shown?_usageSignals_of_not hkey.2 usage
  rw [shown?_record span setter hkey.1, husage, Option.or_none]
  split <;> rfl

/-- **The counts of usage that is shown.** -/
theorem shown?_usageSignals (usage : Usage) :
    shown? (usageSignals usage) (AttrKey.text .promptTokens) = some (.ofWord usage.prompt)
      ∧ shown? (usageSignals usage) (AttrKey.text .completionTokens)
        = some (.ofWord usage.completion)
      ∧ shown? (usageSignals usage) (AttrKey.text .totalTokens) = some (.ofWord usage.total) := by
  unfold usageSignals
  simp only [shown?_cons]
  exact ⟨rfl, rfl, rfl⟩

/-- **The number and the names of calls that are shown.** -/
theorem shown?_callSignals (limits : Limits) (calls : List (Nat × OpenAiCall)) :
    shown? (callSignals limits calls) (AttrKey.text .toolCallCount) = some (.ofCount calls.length)
      ∧ shown? (callSignals limits calls) (AttrKey.text .toolCallNames)
        = some (.text (String.intercalate "," (callNames calls))) := by
  unfold callSignals
  simp only [shown?_append, shown?_cons]
  exact ⟨rfl, rfl⟩

end Span
end CallScope
