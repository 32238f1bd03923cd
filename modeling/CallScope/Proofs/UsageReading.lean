import CallScope.Proofs.ReadingBack
import CallScope.Proofs.SuppliedCalls

/-!
# Two readings of usage

A usage object is read in two ways. Decoding is strict: a count is an unsigned
word, or the object is refused. What comes with a response is read leniently: a
count that is no such word is taken for what it comes closest to. A payload of two
bare counts is only ever read leniently, and its total is their sum.

Where the strict reading reads anything, the lenient one reads the same
(`Usage.ofPayload?_of_decode`), so that usage may go through JSON on its way to a
span. And the lenient reading knows no overflow: a number counts for its whole
part, a negative one for nothing, and of what is beyond the largest word, be it one
count or the sum of two, that word is left (`Usage.toNat_countOfNumber`,
`Usage.toNat_ofCounts`).
-/

namespace CallScope

open Json Decode

/-! ## Numbers as words -/

/-- **The largest word stands for all numbers beyond it.** -/
theorem toNat_saturateWord (n : Nat) : (saturateWord n).toNat = min n (2 ^ 64 - 1) := by
  unfold saturateWord
  split
  · rename_i hn
    rw [UInt64.toNat_ofNat_of_lt' hn]
    omega
  · rename_i hn
    rw [show maxWord.toNat = 2 ^ 64 - 1 from by decide]
    omega

namespace Double

/-- The double nearest to an integer below zero is negative. -/
theorem isNegative_ofInt {n : Int} (h : n < 0) : (ofInt n).isNegative = true := by
  rw [ofInt, ofRatio_eq, decide_eq_true h, isNegative_ofMagnitude (nearest_lt _ _)]

/-- The two zeros have no whole part. -/
theorem truncatedSize_of_isZero {x : Double} (h : x.isZero = true) : x.truncatedSize = 0 := by
  have hunits : units x.magnitude = 0 := by
    rw [show x.magnitude = 0 from eq_of_beq h]
    decide
  simp only [truncatedSize, hunits, Nat.zero_div]

end Double

/-- **What a number counts**: its whole part, and nothing if it is negative. -/
def Json.Number.counted : Number → Nat
  | .integer n => n.val.toNat
  | .double x _ => if x.isNegative then 0 else x.truncatedSize

namespace Usage

/-! ## Counts -/

/-- **A number is read as what it counts**, or as the largest word. -/
theorem toNat_countOfNumber (n : Number) :
    (countOfNumber n).toNat = min n.counted (2 ^ 64 - 1) := by
  cases n with
  | integer n =>
    have hupper := n.upper
    unfold countOfNumber Number.toUInt64? Integer.toUInt64? Number.counted
    dsimp only
    by_cases hn : 0 ≤ n.val
    · rw [if_pos hn]
      dsimp only
      rw [UInt64.toNat_ofNat_of_lt' (show n.val.toNat < 2 ^ 64 by omega)]
      omega
    · -- a negative integer is looked at as a double, which is negative as well
      have hzero : (Double.ofInt n.val).isZero = false := by
        rw [Bool.eq_false_iff, ne_eq, Double.isZero_ofInt]
        omega
      have hnegative := Double.isNegative_ofInt (show n.val < 0 by omega)
      rw [if_neg hn]
      dsimp only
      unfold Number.toDouble
      dsimp only
      rw [hnegative, hzero, Int.toNat_of_nonpos (by omega), Nat.zero_min]
      rfl
  | double x finite =>
    unfold countOfNumber Number.toUInt64? Number.counted Number.toDouble
    dsimp only
    cases hnegative : x.isNegative with
    | false =>
      rw [Bool.false_and, if_neg Bool.false_ne_true, if_neg Bool.false_ne_true]
      exact toNat_saturateWord _
    | true =>
      rw [if_pos rfl, Nat.zero_min]
      cases hzero : x.isZero with
      | false => rfl
      | true =>
        rw [Double.truncatedSize_of_isZero hzero]
        rfl

/-- **How many tokens a payload reports** under a key. Only a number reports
any. -/
def reported (payload : Value) (key : String) : Nat :=
  match payload.get? key with
  | some (.number n) => n.counted
  | _ => 0

/-- A count is what is reported, up to the largest word. -/
theorem toNat_count (payload : Value) (key : String) :
    (count payload key).toNat = min (reported payload key) (2 ^ 64 - 1) := by
  unfold count reported
  cases payload.get? key with
  | none => rfl
  | some v =>
    cases v with
    | number n => exact toNat_countOfNumber n
    | _ => rfl

/-- **The counts of a payload of two** and their sum, each up to the largest
word. -/
theorem toNat_ofCounts (payload : Value) :
    let prompt := reported payload "prompt_eval_count"
    let completion := reported payload "eval_count"
    (ofCounts payload).prompt.toNat = min prompt (2 ^ 64 - 1)
      ∧ (ofCounts payload).completion.toNat = min completion (2 ^ 64 - 1)
      ∧ (ofCounts payload).total.toNat = min (prompt + completion) (2 ^ 64 - 1) := by
  intro prompt completion
  have hprompt := toNat_count payload "prompt_eval_count"
  have hcompletion := toNat_count payload "eval_count"
  refine ⟨hprompt, hcompletion, ?_⟩
  unfold ofCounts
  dsimp only
  rw [toNat_saturateWord, hprompt, hcompletion]
  omega

/-! ## Usage objects -/

/-- Only an unsigned word is decoded as one, and it is read as itself. -/
theorem countOfNumber_of_word {v : Value} {expected : String} {w : UInt64}
    (h : (word expected).ofValue v = .ok w) : ∃ n, v = .number n ∧ countOfNumber n = w := by
  change word expected .settled (.ofValue v) = .ok w at h
  unfold word at h
  split at h
  · rename_i n hdraft
    have hv : v = .number (.integer n) := by
      cases v with
      | number m =>
        cases hdraft
        rfl
      | _ => cases hdraft
    split at h
    · rename_i hw
      cases h
      refine ⟨.integer n, hv, ?_⟩
      unfold countOfNumber Number.toUInt64?
      dsimp only
      rw [hw]
    · cases h
  · exact absurd h (reject_ne_ok _ _ _)

/-- **A field of a usage object** is the count under its key. -/
theorem count_of_field {key : String} {entry : Partial → Option UInt64}
    (field : record.Field key (word "u64") entry) {members : List (String × Value)}
    {kept : Partial}
    (h : record.fillMembers .settled .closed (Draft.ofMembers members) record.blank = .ok kept) :
    count (.object members) key = (entry kept).getD 0 := by
  unfold count Value.get?
  dsimp only
  rcases field.read h with ⟨hlookup, hentry⟩ | ⟨v, w, hlookup, hw, hentry⟩
  · rw [hlookup, hentry]
    rfl
  · obtain ⟨n, rfl, hn⟩ := countOfNumber_of_word hw
    rw [hlookup, hentry]
    exact hn

/-- The three counts of a usage object are fields of its record. -/
theorem record_fields :
    record.Field "prompt_tokens" (word "u64") (·.prompt)
      ∧ record.Field "completion_tokens" (word "u64") (·.completion)
      ∧ record.Field "total_tokens" (word "u64") (·.total) := by
  refine ⟨Record.field_of_slots [] [_, _] rfl rfl (fun _ _ => rfl) ?_,
    Record.field_of_slots [_] [_] rfl rfl (fun _ _ => rfl) ?_,
    Record.field_of_slots [_, _] [] rfl rfl (fun _ _ => rfl) ?_⟩
  all_goals
    simp only [List.nil_append, List.append_nil, List.singleton_append, List.forall_mem_cons]
    exact ⟨Record.leaves_slot (by decide) fun _ _ => rfl,
      Record.leaves_slot (by decide) fun _ _ => rfl, nofun⟩

/-- An object with members says something, and its counts are read. -/
theorem ofPayload?_of_ne_nil {members : List (String × Value)} (h : members ≠ []) :
    ofPayload? (.object members) = some {
      prompt := count (.object members) "prompt_tokens"
      completion := count (.object members) "completion_tokens"
      total := count (.object members) "total_tokens" } := by
  cases members with
  | nil => exact absurd rfl h
  | cons member rest => rfl

/-- **What is decoded as usage is read as the same usage.** -/
theorem ofPayload?_of_decode {members : List (String × Value)} (hmembers : members ≠ [])
    {u : Usage} (h : decode.ofValue (.object members) = .ok u) :
    ofPayload? (.object members) = some u := by
  obtain ⟨kept, hkept, hbuild⟩ := Record.exists_of_decode_object h
  obtain ⟨hprompt, hcompletion, htotal⟩ := record_fields
  rw [ofPayload?_of_ne_nil hmembers, count_of_field hprompt hkept,
    count_of_field hcompletion hkept, count_of_field htotal hkept]
  cases hbuild
  rfl

/-- **Usage is read back from its JSON.** -/
theorem ofPayload?_toValue (u : Usage) : ofPayload? u.toValue = some u :=
  ofPayload?_of_decode (List.cons_ne_nil _ _) u.decode_toValue

/-- **Usage that comes of the value under `usage`** is the usage of the response. -/
theorem ofResponse?_of_payload {response usage : Value} {u : Usage}
    (hget : response.get? "usage" = some usage) (hpayload : ofPayload? usage = some u) :
    ofResponse? response = some u := by
  unfold ofResponse?
  rw [hget, Option.bind_some, hpayload]

/-! ## Both readings -/

/-- **A payload reports an integer** under a key, or zero if it has nothing
there. -/
def ReportsInteger (payload : Value) (key : String) (n : Int) : Prop :=
  (∃ i : Integer, payload.get? key = some (.number (.integer i)) ∧ i.val = n)
    ∨ payload.get? key = none ∧ n = 0

/-- Of an integer that is reported, as much counts as is not negative. -/
theorem reported_of_integer {payload : Value} {key : String} {n : Int}
    (h : ReportsInteger payload key n) :
    reported payload key = n.toNat ∧ n.toNat ≤ 2 ^ 64 - 1 := by
  unfold reported
  rcases h with ⟨i, hi, rfl⟩ | ⟨hnone, rfl⟩
  · have hupper := i.upper
    rw [hi]
    exact ⟨rfl, by omega⟩
  · rw [hnone]
    exact ⟨rfl, by decide⟩

/-- **The strict and the lenient reading of usage agree, and counts never
overflow.** What is decoded as usage from an object with members is read from it as
well. So usage is read back from its JSON, has the same effect on a span in this
form as it is, and is the usage of every response that has its JSON under `usage`,
whatever else the response has. Of a payload of two integer counts, each count is
the integer, or zero if that is negative, and the total is their sum or the largest
word, so that it is never less than either. -/
theorem readings_agree :
    (∀ members u, members ≠ [] → decode.ofValue (.object members) = .ok u →
      ofPayload? (.object members) = some u)
    ∧ (∀ u, ofPayload? u.toValue = some u)
    ∧ (∀ (u : Usage) (span : Span) (recording : Bool) (now : Moment),
      span.step recording now (.set (.usagePayload u.toValue))
        = span.step recording now (.set (.usage u)))
    ∧ (∀ response u, response.get? "usage" = some u.toValue → ofResponse? response = some u)
    ∧ ∀ payload p c, ReportsInteger payload "prompt_eval_count" p →
      ReportsInteger payload "eval_count" c →
        (ofCounts payload).prompt.toNat = p.toNat
        ∧ (ofCounts payload).completion.toNat = c.toNat
        ∧ (ofCounts payload).total.toNat = min (p.toNat + c.toNat) (2 ^ 64 - 1)
        ∧ (ofCounts payload).prompt ≤ (ofCounts payload).total
        ∧ (ofCounts payload).completion ≤ (ofCounts payload).total := by
  refine ⟨fun members u hmembers hdecode => ofPayload?_of_decode hmembers hdecode,
    ofPayload?_toValue, fun u span recording now => ?_,
    fun response u husage => ofResponse?_of_payload husage (ofPayload?_toValue u),
    fun payload p c hp hc => ?_⟩
  · refine Span.step_set_congr ?_ recording now
    show span.recordUsagePayload u.toValue = span.recordUsage u
    unfold Span.recordUsagePayload
    rw [ofPayload?_toValue]
  · obtain ⟨hprompt, hcompletion, htotal⟩ := toNat_ofCounts payload
    obtain ⟨hp, hpmax⟩ := reported_of_integer hp
    obtain ⟨hc, hcmax⟩ := reported_of_integer hc
    rw [hp, Nat.min_eq_left hpmax] at hprompt
    rw [hc, Nat.min_eq_left hcmax] at hcompletion
    rw [hp, hc] at htotal
    refine ⟨hprompt, hcompletion, htotal, ?_, ?_⟩
    · rw [UInt64.le_iff_toNat_le, hprompt, htotal]
      omega
    · rw [UInt64.le_iff_toNat_le, hcompletion, htotal]
      omega

/-- A usage object with an unknown key and without one of its counts, a response that
has counts besides its usage, and two payloads of counts: one whose sum is beyond the
largest word, and one with the smallest integer and nothing else. -/
theorem readings_agree_limits :
    let u : Usage := ⟨0, maxWord, 7⟩
    let members : List (String × Value) := [("model", .string "gpt"),
      ("total_tokens", .ofUInt64 7), ("completion_tokens", .ofUInt64 maxWord)]
    let response : Value := .object [("eval_count", .ofUInt64 3), ("usage", u.toValue)]
    let large : Value := .object [("eval_count", .ofUInt64 maxWord),
      ("prompt_eval_count", .ofUInt64 5)]
    let negative : Value := .object [
      ("eval_count", .number (.integer ⟨-2 ^ 63, by decide, by decide⟩))]
    (decode.ofValue (.object members) = .ok u ∧ ofPayload? (.object members) = some u)
      ∧ (response.get? "usage" = some u.toValue ∧ ofResponse? response = some u)
      ∧ (ReportsInteger large "prompt_eval_count" 5
        ∧ ReportsInteger large "eval_count" (2 ^ 64 - 1)
        ∧ (ofCounts large).total.toNat = 2 ^ 64 - 1)
      ∧ ReportsInteger negative "prompt_eval_count" 0
        ∧ ReportsInteger negative "eval_count" (-2 ^ 63)
        ∧ (ofCounts negative).total.toNat = 0 := by
  intro u members response large negative
  obtain ⟨hdecode, -, -, hresponse, hcounts⟩ := readings_agree
  have hu : decode.ofValue (.object members) = .ok u := rfl
  have husage : response.get? "usage" = some u.toValue := rfl
  have hlarge : ReportsInteger large "prompt_eval_count" 5
      ∧ ReportsInteger large "eval_count" (2 ^ 64 - 1) :=
    ⟨.inl ⟨_, rfl, rfl⟩, .inl ⟨_, rfl, rfl⟩⟩
  have hnegative : ReportsInteger negative "prompt_eval_count" 0
      ∧ ReportsInteger negative "eval_count" (-2 ^ 63) :=
    ⟨.inr ⟨rfl, rfl⟩, .inl ⟨_, rfl, rfl⟩⟩
  obtain ⟨-, -, hlargeTotal, -⟩ := hcounts large _ _ hlarge.1 hlarge.2
  obtain ⟨-, -, hnegativeTotal, -⟩ := hcounts negative _ _ hnegative.1 hnegative.2
  exact ⟨⟨hu, hdecode members u (List.cons_ne_nil _ _) hu⟩,
    ⟨husage, hresponse response u husage⟩, ⟨hlarge.1, hlarge.2, hlargeTotal⟩, hnegative.1,
    hnegative.2, hnegativeTotal⟩

end Usage
end CallScope
