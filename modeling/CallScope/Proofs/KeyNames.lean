import CallScope.Proofs.Limited
import CallScope.Telemetry.SpanBackend

/-!
# The names of keys

A backend knows a key by its name only, so that two keys with one name would
be one key to it. No two have (`AttrKey.text_injective`).

Only the keys of single tool calls need an argument. Their names begin with
the same word as the name of the number of calls, and the position stands
behind it in digits, up to the next dot. No other name has a digit there,
and the digits give back the position.

The fields that a trace span is declared with are the names without a position
and those of the first five calls. Hence a call beyond the fifth has no field
(`Tracer.declares_text_iff`): no declared name could be taken for its own.
-/

namespace CallScope
namespace AttrKey

/-- The keys that have no position. -/
def fixed : List AttrKey := [
  .spanKind, .model, .provider, .spanType, .promptTokens, .completionTokens, .totalTokens,
  .inputMessage, .outputMessage, .toolCallCount, .toolCallNames, .temperature, .maxTokens,
  .topP, .topK, .stream]

/-- **The names that have no position**: those of keys, and the fields that a
trace span has besides attributes. -/
def fixedNames : List String := fixed.map text ++ [
  Tracer.nameField, Tracer.kindField, Tracer.statusField, Tracer.statusMessageField,
  Tracer.errorField]

/-- A key without a position is found by its name. -/
theorem find?_fixed :
    ∀ key ∈ fixed, fixed.find? (fun other => other.text == key.text) = some key := by
  decide

/-- What stands in a name behind the word that the names of tool calls begin
with. -/
def behindCalls (name : String) : List Char := name.toList.drop 15

/-- No name without a position has a digit there. -/
theorem behindCalls_fixed :
    ∀ name ∈ fixedNames, (behindCalls name).head?.any Char.isDigit = false := by
  decide

/-- A key has no position, or it is one of the two keys of a single call. -/
theorem cases_fixed (key : AttrKey) :
    key ∈ fixed ∨ (∃ i, key = .toolCallName i) ∨ ∃ i, key = .toolCallArguments i := by
  cases key with
  | toolCallName i => exact .inr (.inl ⟨i, rfl⟩)
  | toolCallArguments i => exact .inr (.inr ⟨i, rfl⟩)
  | _ => exact .inl (by decide)

/-- Behind the word stands the position of a call, and then what of the call
it is. -/
theorem behindCalls_indexed (i : Nat) (rest : String) :
    behindCalls ("llm.tool_calls." ++ toString i ++ rest) = Nat.toDigits 10 i ++ rest.toList := by
  unfold behindCalls
  rw [String.toList_append, String.toList_append, List.append_assoc,
    List.drop_left' (by decide), Nat.toString_eq_repr, Nat.toList_repr]

theorem isDigit_of_mem_digits {i : Nat} : ∀ c ∈ Nat.toDigits 10 i, c.isDigit = true :=
  fun _ h => Nat.isDigit_of_mem_toDigits (by decide) (by decide) h

/-- The digits of a position end at the dot behind them, and give back the
position. -/
theorem eq_of_digits_append {i j : Nat} {rest other : List Char}
    (h : Nat.toDigits 10 i ++ '.' :: rest = Nat.toDigits 10 j ++ '.' :: other) :
    i = j ∧ rest = other := by
  -- the dot is no digit, so that the digits are all that comes before it
  have hdigits : Nat.toDigits 10 i = Nat.toDigits 10 j := by
    have htake := congrArg (List.takeWhile Char.isDigit) h
    rw [List.takeWhile_append_of_pos isDigit_of_mem_digits,
      List.takeWhile_append_of_pos isDigit_of_mem_digits] at htake
    exact List.append_cancel_right htake
  have hposition : i = j := by
    rw [← Nat.ofDigitChars_ten_toDigits (n := i), hdigits, Nat.ofDigitChars_ten_toDigits]
  rw [hdigits] at h
  exact ⟨hposition, (List.cons.inj (List.append_cancel_left h)).2⟩

/-- **A name with a position is not one without.** -/
theorem notMem_fixedNames (i : Nat) (rest : String) :
    "llm.tool_calls." ++ toString i ++ rest ∉ fixedNames := by
  intro hmem
  -- the position has a first digit, and the other names have none there
  have hdigit := behindCalls_fixed _ hmem
  rw [behindCalls_indexed] at hdigit
  obtain ⟨c, digits, hc⟩ := List.exists_cons_of_ne_nil (Nat.toDigits_ne_nil (n := i) (b := 10))
  have hmem : c.isDigit = true := isDigit_of_mem_digits c (hc ▸ List.mem_cons_self)
  rw [hc] at hdigit
  exact Bool.noConfusion (hmem.symm.trans hdigit)

theorem text_mem_fixedNames {key : AttrKey} (h : key ∈ fixed) : key.text ∈ fixedNames :=
  List.mem_append_left _ (List.mem_map_of_mem h)

/-- A name with a position is not the name of a key without one. -/
theorem text_ne_of_fixed {key : AttrKey} (h : key ∈ fixed) (i : Nat) (rest : String) :
    key.text ≠ "llm.tool_calls." ++ toString i ++ rest :=
  fun heq => notMem_fixedNames i rest (heq ▸ text_mem_fixedNames h)

/-- **No two keys have one name.** -/
theorem text_injective {key other : AttrKey} (h : key.text = other.text) : key = other := by
  have hindexed : ∀ (rest tail : String) {i j : Nat},
      "llm.tool_calls." ++ toString i ++ ("." ++ rest)
        = "llm.tool_calls." ++ toString j ++ ("." ++ tail) → i = j ∧ rest = tail := by
    intro rest tail i j heq
    have hbehind := congrArg behindCalls heq
    rw [behindCalls_indexed, behindCalls_indexed, String.toList_append,
      String.toList_append] at hbehind
    obtain ⟨hij, hrest⟩ := eq_of_digits_append hbehind
    exact ⟨hij, String.toList_inj.mp hrest⟩
  rcases cases_fixed key with hkey | ⟨i, rfl⟩ | ⟨i, rfl⟩
  · rcases cases_fixed other with hother | ⟨j, rfl⟩ | ⟨j, rfl⟩
    · have hfound := find?_fixed key hkey
      rw [h, find?_fixed other hother] at hfound
      exact (Option.some.inj hfound).symm
    · exact absurd h (text_ne_of_fixed hkey j _)
    · exact absurd h (text_ne_of_fixed hkey j _)
  · rcases cases_fixed other with hother | ⟨j, rfl⟩ | ⟨j, rfl⟩
    · exact absurd h.symm (text_ne_of_fixed hother i _)
    · rw [(hindexed "name" "name" h).1]
    · exact absurd (hindexed "name" "arguments" h).2 (by decide)
  · rcases cases_fixed other with hother | ⟨j, rfl⟩ | ⟨j, rfl⟩
    · exact absurd h.symm (text_ne_of_fixed hother i _)
    · exact absurd (hindexed "arguments" "name" h).2 (by decide)
    · rw [(hindexed "arguments" "arguments" h).1]

end AttrKey

/-! ## Fields of a trace span -/

namespace Tracer

/-- The keys of the first five calls. -/
def firstKeys : List AttrKey := (List.range 5).flatMap fun i =>
  [.toolCallName i, .toolCallArguments i]

/-- **The declared fields** are the names without a position and those of the
keys of the first five calls. -/
theorem mem_declaredFields_iff {field : String} :
    field ∈ declaredFields ↔ field ∈ AttrKey.fixedNames ∨ field ∈ firstKeys.map AttrKey.text := by
  have hdeclared : ∀ field ∈ declaredFields,
      field ∈ AttrKey.fixedNames ++ firstKeys.map AttrKey.text := by decide
  have hnamed : ∀ field ∈ AttrKey.fixedNames ++ firstKeys.map AttrKey.text,
      field ∈ declaredFields := by decide
  rw [← List.mem_append]
  exact ⟨hdeclared field, hnamed field⟩

/-- A key is among those of the first five calls if its name is. -/
theorem text_mem_firstKeys_iff {key : AttrKey} :
    key.text ∈ firstKeys.map AttrKey.text ↔ key ∈ firstKeys := by
  refine ⟨fun h => ?_, List.mem_map_of_mem⟩
  obtain ⟨other, hmem, htext⟩ := List.mem_map.mp h
  exact AttrKey.text_injective htext ▸ hmem

/-- **A key has a field** exactly if it has no position, or one below five. -/
theorem declares_text_iff {key : AttrKey} :
    declares key.text = true ↔ key.isWithin 5 = true := by
  rw [declares, List.contains_iff_mem, mem_declaredFields_iff, text_mem_firstKeys_iff]
  rcases key.cases_fixed with hfixed | ⟨i, rfl⟩ | ⟨i, rfl⟩
  · have hwithin : ∀ key ∈ AttrKey.fixed, key.isWithin 5 = true := by decide
    exact iff_of_true (.inl (AttrKey.text_mem_fixedNames hfixed)) (hwithin key hfixed)
  · have hapart : (AttrKey.toolCallName i).text ∉ AttrKey.fixedNames :=
      AttrKey.notMem_fixedNames i ".name"
    simp [hapart, firstKeys, AttrKey.isWithin]
  · have hapart : (AttrKey.toolCallArguments i).text ∉ AttrKey.fixedNames :=
      AttrKey.notMem_fixedNames i ".arguments"
    simp [hapart, firstKeys, AttrKey.isWithin]

end Tracer

namespace AttrKey

/-- **The keys of single calls are apart**, whatever the positions: two of them
have one name only if they are the same key, and none has the name of another key
or of another field of a trace span. A trace span has fields for them up to the
fifth call and for none behind it. -/
theorem callKeys_apart (i j : Nat) :
    ((toolCallName i).text = (toolCallName j).text ↔ i = j)
      ∧ ((toolCallArguments i).text = (toolCallArguments j).text ↔ i = j)
      ∧ (toolCallName i).text ≠ (toolCallArguments j).text
      ∧ (toolCallName i).text ∉ fixedNames
      ∧ (toolCallArguments i).text ∉ fixedNames
      ∧ ["llm.tool_calls.names", "llm.tool_calls.count"] ⊆ fixedNames
      ∧ (∀ key : AttrKey, key.text ∈ fixedNames
        ∨ (∃ k, key = toolCallName k) ∨ ∃ k, key = toolCallArguments k)
      ∧ (Tracer.declares (toolCallName i).text = true ↔ i ≤ 4)
      ∧ (Tracer.declares (toolCallArguments i).text = true ↔ i ≤ 4) := by
  have hbelow : decide (i < 5) = true ↔ i ≤ 4 := decide_eq_true_iff.trans Nat.lt_succ_iff
  refine ⟨⟨fun h => toolCallName.inj (text_injective h), fun h => h ▸ rfl⟩,
    ⟨fun h => toolCallArguments.inj (text_injective h), fun h => h ▸ rfl⟩,
    fun h => AttrKey.noConfusion (text_injective h), notMem_fixedNames i ".name",
    notMem_fixedNames i ".arguments", by decide,
    fun key => key.cases_fixed.imp_left text_mem_fixedNames,
    Tracer.declares_text_iff.trans hbelow, Tracer.declares_text_iff.trans hbelow⟩

end AttrKey
end CallScope
