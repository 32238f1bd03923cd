import CallScope.Proofs.UsageReading

/-!
# Where the usage of a response comes from

A response reports usage in a usage object or by two bare counts, and the object
comes first. The counts are there for responses that have no such object, and so
they are meant to be read whenever there is none.

What comes under `usage` is of three kinds, and with one of them this is not so.

* An object with members has the usage of the response
  (`Usage.ofResponse?_of_object`).
* Nothing, `null` or an object without members says nothing, and the counts are
  read if there are any (`Usage.ofResponse?_of_noUsage`).
* Any other value is no usage object, and is taken for zero usage all the same
  (`Usage.ofResponse?_of_stray`). Counts besides it are not looked at.

So counts are lost exactly if they report any tokens and a value of the third kind
hides them (`Usage.ofResponse?_sources`).
-/

namespace CallScope

open Json

namespace Usage

/-! ## What may come under `usage` -/

/-- **A response with a usage object**, one that has members. -/
def HasUsageObject (response : Value) : Prop :=
  ∃ members, members ≠ [] ∧ response.get? "usage" = some (.object members)

/-- **A response that says nothing of usage**: if anything comes under `usage`, it is
`null` or an object without members. -/
def NoUsage (response : Value) : Prop :=
  ∀ usage, response.get? "usage" = some usage → usage = .null ∨ usage = .object []

/-- **A response with a stray value under `usage`**, neither `null` nor an object. -/
def StrayUsage (response : Value) : Prop :=
  ∃ usage, response.get? "usage" = some usage ∧ usage ≠ .null
    ∧ ∀ members, usage ≠ .object members

/-- **A response with counts**, one of them or both. -/
def HasCounts (response : Value) : Prop :=
  response.get? "prompt_eval_count" ≠ none ∨ response.get? "eval_count" ≠ none

/-- There are no other kinds of responses. -/
theorem usage_cases (response : Value) :
    HasUsageObject response ∨ NoUsage response ∨ StrayUsage response := by
  cases hget : response.get? "usage" with
  | none => exact .inr (.inl fun usage husage => by cases hget.symm.trans husage)
  | some usage =>
    have hnoUsage : usage = .null ∨ usage = .object [] → NoUsage response := by
      intro hnothing other hother
      cases hget.symm.trans hother
      exact hnothing
    cases usage with
    | null => exact .inr (.inl (hnoUsage (.inl rfl)))
    | object members =>
      cases members with
      | nil => exact .inr (.inl (hnoUsage (.inr rfl)))
      | cons member rest => exact .inl ⟨_, List.cons_ne_nil _ _, hget⟩
    | _ => exact .inr (.inr ⟨_, hget, nofun, nofun⟩)

/-- A stray value is no usage object. -/
theorem not_hasUsageObject_of_stray {response : Value} (h : StrayUsage response) :
    ¬HasUsageObject response := by
  obtain ⟨usage, hget, -, hobject⟩ := h
  rintro ⟨members, -, hmembers⟩
  exact hobject members (Option.some.inj (hget.symm.trans hmembers))

/-! ## What is made of it -/

/-- **A usage object has the usage of its response.** -/
theorem ofResponse?_of_object {response : Value} {members : List (String × Value)}
    (hmembers : members ≠ []) (hget : response.get? "usage" = some (.object members)) :
    ∃ u, ofPayload? (.object members) = some u ∧ ofResponse? response = some u := by
  have hpayload := ofPayload?_of_ne_nil hmembers
  exact ⟨_, hpayload, ofResponse?_of_payload hget hpayload⟩

/-- **A stray value is taken for zero usage**, whatever counts there are. -/
theorem ofResponse?_of_stray {response : Value} (h : StrayUsage response) :
    ofResponse? response = some {} := by
  obtain ⟨usage, hget, hnull, hobject⟩ := h
  refine ofResponse?_of_payload hget ?_
  cases usage with
  | null => exact absurd rfl hnull
  | object members => exact absurd rfl (hobject members)
  | _ => rfl

/-- Without usage, a response has what its counts come to. -/
theorem ofResponse?_of_noUsage {response : Value} (h : NoUsage response) :
    (HasCounts response → ofResponse? response = some (ofCounts response))
      ∧ (¬HasCounts response → ofResponse? response = none) := by
  have hpayload : (response.get? "usage").bind ofPayload? = none := by
    cases hget : response.get? "usage" with
    | none => rfl
    | some usage => rcases h usage hget with rfl | rfl <;> rfl
  have hcounts : ((response.get? "prompt_eval_count").isSome
      || (response.get? "eval_count").isSome) = true ↔ HasCounts response := by
    rw [Bool.or_eq_true, Option.isSome_iff_ne_none, Option.isSome_iff_ne_none]
    rfl
  unfold ofResponse?
  rw [hpayload]
  exact ⟨fun hhas => if_pos (hcounts.mpr hhas), fun hnone => if_neg (mt hcounts.mp hnone)⟩

/-! ## What is lost -/

/-- **The counts of a response are kept**: without a usage object, its usage is what
they come to. -/
def CountsKept (response : Value) : Prop :=
  ¬HasUsageObject response → HasCounts response → ofResponse? response = some (ofCounts response)

/-- Only a number under one of their keys makes counts report anything. -/
theorem hasCounts_of_reported {response : Value}
    (h : ¬(reported response "prompt_eval_count" = 0 ∧ reported response "eval_count" = 0)) :
    HasCounts response := by
  by_contra hnone
  obtain ⟨hprompt, hcompletion⟩ := not_or.mp hnone
  refine h ⟨?_, ?_⟩
  · rw [reported, not_not.mp hprompt]
  · rw [reported, not_not.mp hcompletion]

/-- Counts come to nothing only if they report nothing. -/
theorem ofCounts_eq_zero_iff {response : Value} :
    ofCounts response = {}
      ↔ reported response "prompt_eval_count" = 0 ∧ reported response "eval_count" = 0 := by
  obtain ⟨hprompt, hcompletion, htotal⟩ := toNat_ofCounts response
  constructor
  · intro hzero
    rw [hzero] at hprompt hcompletion
    change 0 = _ at hprompt
    change 0 = _ at hcompletion
    omega
  · rintro ⟨hp, hc⟩
    rw [hp, Nat.zero_min] at hprompt
    rw [hc, Nat.zero_min] at hcompletion
    rw [hp, hc, Nat.zero_min] at htotal
    have hzero : ∀ {w : UInt64}, w.toNat = 0 → w = 0 := fun h => UInt64.toNat_inj.mp h
    show Usage.mk (ofCounts response).prompt (ofCounts response).completion
      (ofCounts response).total = ⟨0, 0, 0⟩
    rw [hzero hprompt, hzero hcompletion, hzero htotal]

/-- **Where the usage of a response comes from.** A usage object decides if there is
one. If nothing is said of usage, the counts do, of which no token is dropped: each is
what is reported, and their total is the sum, up to the largest word. There is no usage
at all exactly if there is neither. Whatever else comes under `usage` is taken for zero
usage, and so the counts of a response without a usage object are kept if and only if
there is no such value, or no tokens are reported besides it. -/
theorem ofResponse?_sources (response : Value) :
    (∀ members, members ≠ [] → response.get? "usage" = some (.object members) →
      ∃ u, ofPayload? (.object members) = some u ∧ ofResponse? response = some u)
    ∧ (NoUsage response → HasCounts response →
      ofResponse? response = some (ofCounts response))
    ∧ (let prompt := reported response "prompt_eval_count"
      let completion := reported response "eval_count"
      (ofCounts response).prompt.toNat = min prompt (2 ^ 64 - 1)
        ∧ (ofCounts response).completion.toNat = min completion (2 ^ 64 - 1)
        ∧ (ofCounts response).total.toNat = min (prompt + completion) (2 ^ 64 - 1))
    ∧ (ofResponse? response = none ↔ NoUsage response ∧ ¬HasCounts response)
    ∧ (StrayUsage response → ofResponse? response = some {})
    ∧ (CountsKept response ↔ (StrayUsage response →
      reported response "prompt_eval_count" = 0 ∧ reported response "eval_count" = 0)) := by
  refine ⟨fun members hmembers hget => ofResponse?_of_object hmembers hget,
    fun hno => (ofResponse?_of_noUsage hno).1, toNat_ofCounts response, ⟨fun hnone => ?_, ?_⟩,
    ofResponse?_of_stray, ⟨fun hkept hstray => ?_, fun hzero hobject hcounts => ?_⟩⟩
  · rcases usage_cases response with ⟨members, hmembers, hget⟩ | hno | hstray
    · obtain ⟨u, -, hu⟩ := ofResponse?_of_object hmembers hget
      cases hnone.symm.trans hu
    · refine ⟨hno, fun hcounts => ?_⟩
      cases hnone.symm.trans ((ofResponse?_of_noUsage hno).1 hcounts)
    · cases hnone.symm.trans (ofResponse?_of_stray hstray)
  · rintro ⟨hno, hcounts⟩
    exact (ofResponse?_of_noUsage hno).2 hcounts
  · by_contra hreported
    have husage := hkept (not_hasUsageObject_of_stray hstray) (hasCounts_of_reported hreported)
    rw [ofResponse?_of_stray hstray] at husage
    exact hreported (ofCounts_eq_zero_iff.mp (Option.some.inj husage).symm)
  · rcases usage_cases response with hhas | hno | hstray
    · exact absurd hhas hobject
    · exact (ofResponse?_of_noUsage hno).1 hcounts
    · rw [ofResponse?_of_stray hstray, ofCounts_eq_zero_iff.mpr (hzero hstray)]

/-- An object without members leaves the usage to the counts, one with members takes it
from them, and one that says nothing leaves a response without counts without usage. -/
theorem ofResponse?_sources_objects :
    let counted : Value := .object [("usage", .object []), ("eval_count", .ofUInt64 7)]
    let usage := [("total_tokens", Value.ofUInt64 3)]
    let both : Value := .object [("eval_count", .ofUInt64 7), ("usage", .object usage)]
    let neither : Value := .object [("usage", .null)]
    (NoUsage counted ∧ HasCounts counted ∧ ofResponse? counted = some ⟨0, 7, 7⟩)
      ∧ (both.get? "usage" = some (.object usage) ∧ ofResponse? both = some ⟨0, 0, 3⟩)
      ∧ NoUsage neither ∧ ¬HasCounts neither ∧ ofResponse? neither = none := by
  intro counted usage both neither
  have hcounted : NoUsage counted := fun v hv => .inr (Option.some.inj hv).symm
  have hneither : NoUsage neither := fun v hv => .inl (Option.some.inj hv).symm
  have hcounts : HasCounts counted := .inr nofun
  have hnoCounts : ¬HasCounts neither := by
    rintro (hprompt | hcompletion)
    · exact hprompt rfl
    · exact hcompletion rfl
  obtain ⟨u, hu, hboth⟩ := (ofResponse?_sources both).1 usage (List.cons_ne_nil _ _) rfl
  cases hu
  exact ⟨⟨hcounted, hcounts, (ofResponse?_sources counted).2.1 hcounted hcounts⟩,
    ⟨rfl, hboth⟩, hneither, hnoCounts,
    (ofResponse?_sources neither).2.2.2.1.mpr ⟨hneither, hnoCounts⟩⟩

/-- **A text under `usage` hides the counts** of nine tokens, which come to zero. -/
theorem counts_hidden :
    let response : Value := .object [("usage", .string "n/a"),
      ("prompt_eval_count", .ofUInt64 4), ("eval_count", .ofUInt64 5)]
    ¬HasUsageObject response ∧ HasCounts response ∧ ofCounts response = ⟨4, 5, 9⟩
      ∧ ofResponse? response = some {} ∧ ¬CountsKept response := by
  intro response
  have hstray : StrayUsage response := ⟨_, rfl, nofun, nofun⟩
  have hcounts : HasCounts response := .inl nofun
  have hobject := not_hasUsageObject_of_stray hstray
  have husage := ofResponse?_of_stray hstray
  refine ⟨hobject, hcounts, rfl, husage, fun hkept => ?_⟩
  cases husage.symm.trans (hkept hobject hcounts)

end Usage
end CallScope
