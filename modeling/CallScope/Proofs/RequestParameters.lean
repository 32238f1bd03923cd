import CallScope.Proofs.NumberText
import CallScope.Proofs.Refusals
import CallScope.Proofs.Reordering
import CallScope.Proofs.Schema

/-!
# Request parameters, each for itself

Of the members of a request, five are parameters that are shown. What is sent
of each of them is found by its name and told by its value alone
(`Span.parameterSignal`), so that neither the order of the members, nor the
members besides, nor what becomes of the other parameters has a say in it. So
recording a request comes to the same as recording its parameters one after
another, each as a request of its own (`Span.parameters_each_alone`).

Callers are loose about types, and an integer may come as a number or as its
decimal text with blanks around it. Both are read as that integer
(`Parameter.int?_of_given`), up to either end of the signed words.
-/

namespace CallScope

open Json Decode

/-! ## Integers given as text -/

/-- **Blanks around a text are removed**, if no character in it is blank. -/
theorem Text.trim_append {before core after : List Char}
    (hbefore : ∀ c ∈ before, isBlankChar c = true) (hcore : ∀ c ∈ core, isBlankChar c = false)
    (hne : core ≠ []) (hafter : ∀ c ∈ after, isBlankChar c = true) :
    trim (before ++ core ++ after) = core := by
  -- from either side, the blanks end where the text begins
  have hstop : ∀ text rest : List Char, text ≠ [] → (∀ c ∈ text, isBlankChar c = false) →
      (text ++ rest).dropWhile isBlankChar = text ++ rest := by
    intro text rest hne htext
    obtain ⟨c, text, rfl⟩ := List.exists_cons_of_ne_nil hne
    exact List.dropWhile_cons_of_neg (by simp [htext c List.mem_cons_self])
  have hback := hstop core.reverse [] (by simpa using hne)
    fun c hc => hcore c (List.mem_reverse.mp hc)
  unfold trim
  rw [List.append_assoc, List.dropWhile_append_of_pos hbefore, hstop core after hne hcore,
    List.reverse_append, List.dropWhile_append_of_pos fun c hc => hafter c (List.mem_reverse.mp hc)]
  rw [List.append_nil] at hback
  rw [hback, List.reverse_reverse]

/-- A digit or a minus sign is not blank. -/
theorem Text.isBlankChar_of_digit {c : Char} (h : Numeral.isDigit c = true ∨ c = '-') :
    isBlankChar c = false := by
  rcases h with h | rfl
  · simp only [Numeral.isDigit, Bool.and_eq_true, decide_eq_true_eq] at h
    have hlow : 48 ≤ c.toNat := h.1
    have hhigh : c.toNat ≤ 57 := h.2
    simp only [isBlankChar, Bool.or_eq_false_iff, Bool.and_eq_false_iff, decide_eq_false_iff_not,
      beq_eq_false_iff_ne]
    omega
  · decide

/-- Digits behind their sign are read as an integer. -/
theorem Text.Numeral.int?_of_splitSign {s ds : List Char} {negative : Bool}
    (hsign : splitSign s = (negative, ds)) (hds : Numeral.IsDigits ds) :
    int? s = some (if negative then -(ofDigits ds : Int) else ofDigits ds) := by
  obtain ⟨hne, hall⟩ := hds
  unfold int?
  rw [hsign]
  show (if (ds.isEmpty || !ds.all isDigit) = true then none else some _) = _
  rw [List.isEmpty_eq_false_iff.mpr hne, List.all_eq_true.mpr hall]
  rfl

/-- **An integer is read from its decimal text.** -/
theorem Text.Numeral.int?_text (n : Integer) :
    int? (Number.text (.integer n)) = some n.val := by
  have hds := Numeral.isDigits_toDigits n.val.natAbs
  show int? ((if n.val < 0 then ['-'] else []) ++ Nat.toDigits 10 n.val.natAbs) = _
  by_cases hnegative : n.val < 0
  · have hsign : splitSign ('-' :: Nat.toDigits 10 n.val.natAbs)
        = (true, Nat.toDigits 10 n.val.natAbs) := rfl
    rw [if_pos hnegative, List.singleton_append, int?_of_splitSign hsign hds,
      Numeral.ofDigits_toDigits, if_pos rfl]
    exact congrArg some (by omega)
  · -- without a sign, the first character is a digit
    have hsign : splitSign (Nat.toDigits 10 n.val.natAbs)
        = (false, Nat.toDigits 10 n.val.natAbs) := by
      obtain ⟨c, ds, hcons⟩ := List.exists_cons_of_ne_nil hds.1
      have hc : isDigit c = true := hds.2 c (hcons ▸ List.mem_cons_self)
      rw [hcons]
      unfold splitSign
      split
      · rename_i heq
        cases heq
        cases hc
      · rename_i heq
        cases heq
        cases hc
      · rfl
    rw [if_neg hnegative, List.nil_append, int?_of_splitSign hsign hds, Numeral.ofDigits_toDigits,
      if_neg Bool.false_ne_true]
    exact congrArg some (by omega)

namespace Parameter

/-- **How an integer may come**: as a number, or as its decimal text with blanks
around it. -/
inductive GivenAs (n : Int64) : Value → Prop where
  | number : GivenAs n (.ofInt64 n)
  | text (before after : List Char) (hbefore : ∀ c ∈ before, Text.isBlankChar c = true)
    (hafter : ∀ c ∈ after, Text.isBlankChar c = true) :
    GivenAs n (.string (String.ofList
      (before ++ Number.text (.integer (.ofInt64 n)) ++ after)))

/-- A signed word is in range. -/
theorem signed?_toInt (n : Int64) : signed? n.toInt = some n := by
  have hlow := n.le_toInt
  have hhigh := n.toInt_lt
  unfold signed?
  rw [if_pos ⟨by omega, by omega⟩, Int64.ofInt_toInt]

/-- **An integer is read however it comes.** -/
theorem int?_of_given {n : Int64} {raw : Value} (h : GivenAs n raw) : int? raw = some n := by
  cases h with
  | number =>
    have hword : Number.toInt64? (.integer (.ofInt64 n)) = some n := Integer.toInt64?_ofInt64 n
    show some (intOfNumber (.integer (.ofInt64 n))) = some n
    unfold intOfNumber
    rw [hword]
  | text before after hbefore hafter =>
    obtain ⟨hne, hall⟩ := Numeral.isDigits_toDigits (Integer.ofInt64 n).val.natAbs
    have hcore : ∀ c ∈ Number.text (.integer (.ofInt64 n)), Text.isBlankChar c = false := by
      intro c hc
      refine Text.isBlankChar_of_digit ?_
      rcases List.mem_append.mp hc with hc | hc
      · split at hc
        · exact .inr (List.mem_singleton.mp hc)
        · cases hc
      · exact .inl (hall c hc)
    have htext : Number.text (.integer (.ofInt64 n)) ≠ [] :=
      List.append_ne_nil_of_right_ne_nil _ hne
    show (Text.Numeral.int? (Text.trim (String.ofList _).toList)).bind signed? = some n
    rw [String.toList_ofList, Text.trim_append hbefore hcore htext hafter, Text.Numeral.int?_text]
    exact signed?_toInt n

/-- The parameters that are integers. -/
theorem coerce_of_given {p : Parameter} (hp : p = .maxTokens ∨ p = .topK) {n : Int64} {raw : Value}
    (h : GivenAs n raw) : p.coerce raw = .ok (.int n) := by
  rcases hp with rfl | rfl
  all_goals
    show orFail _ "int" raw ((int? raw).map .int) = _
    rw [int?_of_given h]
    rfl

/-- An error names the parameter and shows its value. -/
theorem orFail_eq_error {p : Parameter} {expected : String} {raw : Value}
    {read : Option AttrValue} {error : Error} (h : p.orFail expected raw read = .error error) :
    read = none ∧ error = .coercion p.name expected raw.compact := by
  cases read with
  | none =>
    cases h
    exact ⟨rfl, rfl⟩
  | some value => cases h

/-- Truth values and numbers can be brought to either type of number. -/
theorem isSome_of_numeric {raw : Value} (h : (∃ b, raw = .bool b) ∨ ∃ n, raw = .number n) :
    (double? raw).isSome = true ∧ (int? raw).isSome = true := by
  rcases h with ⟨b, rfl⟩ | ⟨n, rfl⟩
  · exact ⟨rfl, rfl⟩
  · exact ⟨rfl, rfl⟩

/-- **What is refused** is no truth value and no number, and is not meant as a
truth value. -/
theorem refused_of_coerce {p : Parameter} {raw : Value} {error : Error}
    (h : p.coerce raw = .error error) :
    p ≠ .stream ∧ ¬((∃ b, raw = .bool b) ∨ ∃ n, raw = .number n)
      ∧ ∃ expected, error = .coercion p.name expected raw.compact := by
  cases p with
  | temperature | topP =>
    obtain ⟨hnone, herror⟩ := orFail_eq_error h
    refine ⟨nofun, fun hnumeric => ?_, _, herror⟩
    have hsome := (isSome_of_numeric hnumeric).1
    rw [Option.map_eq_none_iff.mp hnone] at hsome
    cases hsome
  | maxTokens | topK =>
    obtain ⟨hnone, herror⟩ := orFail_eq_error h
    refine ⟨nofun, fun hnumeric => ?_, _, herror⟩
    have hsome := (isSome_of_numeric hnumeric).2
    rw [Option.map_eq_none_iff.mp hnone] at hsome
    cases hsome
  | stream => cases h

/-- No two parameters are shown under one key. -/
theorem key_injective {p q : Parameter} (h : p.key = q.key) : p = q := by
  cases p <;> cases q <;> first | rfl | cases h

/-- The parameters are all there are. -/
theorem mem_all (p : Parameter) : p ∈ all := by
  cases p <;> decide

/-- **A parameter of a request as a request of its own**: the member under its
name, and no other. -/
def alone (p : Parameter) (request : Value) : Value :=
  .object ((request.get? p.name).map fun raw => (p.name, raw)).toList

/-- A parameter alone has its value, and the others have none. -/
theorem get?_alone (p q : Parameter) (request : Value) :
    (p.alone request).get? q.name = if q = p then request.get? p.name else none := by
  unfold alone
  cases request.get? p.name with
  | none => rw [ite_self]; rfl
  | some raw =>
    show List.lookup q.name [(p.name, raw)] = _
    cases p <;> cases q <;> rfl

end Parameter

namespace Span

/-! ## What is sent of a parameter -/

/-- A request is recorded parameter by parameter. -/
theorem record_parameters (span : Span) (request : List (String × Value)) :
    span.record (.parameters (.object request))
      = ⟨span, Parameter.all.filterMap (span.parameterSignal (.object request))⟩ := rfl

/-- What is sent of a parameter is told by its value alone. -/
theorem parameterSignal_congr (span : Span) {first second : Value} {p : Parameter}
    (h : first.get? p.name = second.get? p.name) :
    span.parameterSignal first p = span.parameterSignal second p := by
  unfold parameterSignal
  rw [h]

/-- **A parameter alone** is recorded as it is among others. -/
theorem record_alone (span : Span) (p : Parameter) (request : Value) :
    span.record (.parameters (p.alone request))
      = ⟨span, (span.parameterSignal request p).toList⟩ := by
  have hsignal : ∀ q, span.parameterSignal (p.alone request) q
      = if q = p then span.parameterSignal request p else none := by
    intro q
    unfold parameterSignal
    rw [p.get?_alone q request]
    by_cases hq : q = p
    · rw [if_pos hq, if_pos hq, hq]
    · rw [if_neg hq, if_neg hq]
      rfl
  show (⟨span, Parameter.all.filterMap (span.parameterSignal (p.alone request))⟩ : Recorded) = _
  rw [funext hsignal]
  cases p <;> cases span.parameterSignal request _ <;> rfl

/-- **A parameter that is there is shown or warned of**: shown under its own key as
a value of the kind of that key, or warned of and not shown. -/
theorem parameterSignal_cases (span : Span) {request : Value} {p : Parameter} {raw : Value}
    (hraw : request.get? p.name = some raw) :
    (∃ value, (p.key.kind span.limits).admits value = true
        ∧ span.parameterSignal request p = some (.attribute p.key value))
      ∨ ∃ error, p.coerce raw = .error error
        ∧ span.parameterSignal request p = some (span.warning parameterSetter error) := by
  unfold parameterSignal
  rw [hraw, Option.map_some]
  cases hcoerce : p.coerce raw with
  | ok value => exact .inl ⟨value, Parameter.admits_of_coerce hcoerce span.limits, rfl⟩
  | error error => exact .inr ⟨error, rfl, rfl⟩

/-- What is shown under the key of a parameter is sent of that parameter. -/
theorem attribute_mem_record_parameters (span : Span) (request : List (String × Value))
    (p : Parameter) (value : AttrValue) :
    Signal.attribute p.key value ∈ (span.record (.parameters (.object request))).signals
      ↔ span.parameterSignal (.object request) p = some (.attribute p.key value) := by
  rw [record_parameters, List.mem_filterMap]
  refine ⟨fun ⟨q, _, hq⟩ => ?_, fun h => ⟨p, p.mem_all, h⟩⟩
  -- another parameter is shown under another key
  suffices hkey : q.key = p.key by rwa [Parameter.key_injective hkey] at hq
  obtain ⟨raw, -, hsignal⟩ := Option.map_eq_some_iff.mp hq
  split at hsignal
  · injection hsignal with hsignal
    injection hsignal with hkey
  · cases hsignal

/-! ## Turns -/

/-- The turn that records a parameter alone. -/
theorem step_alone {span : Span} (hopen : span.isOpen = true) (now : Moment) (p : Parameter)
    (request : Value) :
    span.step true now (.set (.parameters (p.alone request)))
      = ⟨span, none, (span.parameterSignal request p).toList⟩ := by
  rw [step_set_of_open hopen, record_alone]

/-- Parameters that are recorded one after another send what is to be sent of each
of them, and leave the span as it is. -/
theorem run_alone {span : Span} (hopen : span.isOpen = true) (moments : Parameter → Moment)
    (request : Value) (ps : List Parameter) :
    span.run (ps.map fun p => .setting (moments p) (.parameters (p.alone request)))
      = ⟨span, ps.map fun _ => none, ps.filterMap (span.parameterSignal request)⟩ := by
  induction ps with
  | nil => rfl
  | cons p ps ih =>
    unfold SpanTurn.setting at ih ⊢
    rw [List.map_cons, run_cons]
    dsimp only
    rw [step_alone hopen, ih, List.filterMap_cons]
    cases span.parameterSignal request p <;> rfl

/-- **Parameters are recorded independently of each other.** On an open span whose
handle records, requests that agree on the parameters come to the same, whatever
the order of their members and whatever other members they have. A request comes
to what its parameters come to, each as a request of its own, one after another in
their fixed order. Alone, a parameter that is missing comes to nothing, and one
that is there either is shown, once and under its own key, as a value of the kind
of that key, or is warned of, once and without being shown, by an error that names
it and shows its value; numbers and truth values are never warned of, and neither
is `stream`. What is shown of a parameter does not depend on the others. And a
signed word is shown as itself, be it a number or its decimal text with blanks
around it. -/
theorem parameters_each_alone {span : Span} (hopen : span.isOpen = true) (now : Moment)
    (request : List (String × Value)) :
    let set := fun request : Value => span.step true now (.set (.parameters request))
    (∀ other : List (String × Value),
      (∀ p : Parameter, other.lookup p.name = request.lookup p.name) →
        set (.object other) = set (.object request))
    ∧ (∀ moments : Parameter → Moment,
      let done := span.run <| Parameter.all.map fun p =>
        .setting (moments p) (.parameters (p.alone (.object request)))
      set (.object request) = ⟨done.span, none, done.signals⟩)
    ∧ (∀ p : Parameter,
      (request.lookup p.name = none → set (p.alone (.object request)) = ⟨span, none, []⟩)
      ∧ ∀ raw, request.lookup p.name = some raw →
        (∃ value, (p.key.kind span.limits).admits value = true
          ∧ set (p.alone (.object request)) = ⟨span, none, [.attribute p.key value]⟩)
        ∨ (p ≠ .stream ∧ ¬((∃ b, raw = .bool b) ∨ ∃ n, raw = .number n)
          ∧ ∃ expected, set (p.alone (.object request)) = ⟨span, none,
            [span.warning parameterSetter (.coercion p.name expected raw.compact)]⟩))
    ∧ (∀ (p : Parameter) (other : List (String × Value)) (value : AttrValue),
      other.lookup p.name = request.lookup p.name →
        (Signal.attribute p.key value ∈ (set (.object other)).signals
          ↔ Signal.attribute p.key value ∈ (set (.object request)).signals))
    ∧ ∀ (p : Parameter) (n : Int64) (raw : Value), p = .maxTokens ∨ p = .topK →
      Parameter.GivenAs n raw → request.lookup p.name = some raw → ∀ value,
        (Signal.attribute p.key value ∈ (set (.object request)).signals ↔ value = .int n) := by
  intro set
  have hset : ∀ request, set (.object request) = ⟨span, none,
      Parameter.all.filterMap (span.parameterSignal (.object request))⟩ := fun request =>
    step_set_of_open hopen now (.parameters (.object request))
  have hmem : ∀ (request : List (String × Value)) (p : Parameter) (value : AttrValue),
      Signal.attribute p.key value ∈ (set (.object request)).signals
        ↔ span.parameterSignal (.object request) p = some (.attribute p.key value) := by
    intro request p value
    rw [hset]
    exact span.attribute_mem_record_parameters request p value
  refine ⟨fun other hsame => ?_, fun moments => ?_, fun p => ⟨fun hnone => ?_, fun raw hraw => ?_⟩,
    fun p other value hsame => ?_, fun p n raw hp hgiven hraw value => ?_⟩
  · have hsignal : span.parameterSignal (.object other) = span.parameterSignal (.object request) :=
      funext fun p => span.parameterSignal_congr (hsame p)
    rw [hset, hset, hsignal]
  · rw [hset, run_alone hopen moments]
  · show span.step true now _ = _
    have hget : Value.get? p.name (.object request) = none := hnone
    rw [step_alone hopen, parameterSignal, hget]
    rfl
  · have halone : set (p.alone (.object request)) = _ := step_alone hopen now p (.object request)
    rw [halone]
    rcases span.parameterSignal_cases (show Value.get? p.name (.object request) = _ from hraw) with
      ⟨value, hkind, hsignal⟩ | ⟨error, herror, hsignal⟩
    · exact .inl ⟨value, hkind, by rw [hsignal]; rfl⟩
    · obtain ⟨hp, hraw, expected, rfl⟩ := Parameter.refused_of_coerce herror
      exact .inr ⟨hp, hraw, expected, by rw [hsignal]; rfl⟩
  · have hsignal : span.parameterSignal (.object other) p
        = span.parameterSignal (.object request) p := span.parameterSignal_congr hsame
    rw [hmem, hmem, hsignal]
  · rw [hmem, parameterSignal, show Value.get? p.name (.object request) = some raw from hraw,
      Option.map_some, Parameter.coerce_of_given hp hgiven]
    constructor
    · intro h
      injection h with h
      injection h with h
      injection h with _ h
      exact h.symm
    · rintro rfl
      rfl

/-- A request of five members, one of which is no parameter and one of which is
refused: in whatever order they come, the number of tokens is the smallest signed
word, and the other parameters are what they are alone. -/
theorem parameters_each_alone_refused :
    let span := ((Instrumentor.ofConfig {}).start "gpt" "openai" none ⟨0⟩).span
    let least : Value := .string " -9223372036854775808\u00a0\n"
    let request : List (String × Value) := [("stream", .bool true), ("max_tokens", least),
      ("seed", .ofInt64 7), ("temperature", .string "warm"), ("top_k", .ofInt64 40)]
    let other : List (String × Value) := [("temperature", .string "warm"), ("top_k", .ofInt64 40),
      ("max_tokens", least), ("stream", .bool true)]
    let set := fun request => span.step true ⟨1⟩ (.set (.parameters (.object request)))
    span.isOpen = true
      ∧ (∀ p : Parameter, other.lookup p.name = request.lookup p.name)
      ∧ Parameter.GivenAs minSigned least
      ∧ set other = set request
      ∧ (∀ value, .attribute .maxTokens value ∈ (set request).signals ↔ value = .int minSigned)
      ∧ (∀ value, .attribute .topK value ∈ (set request).signals ↔ value = .int 40)
      ∧ set request = ⟨span, none, [
        span.warning parameterSetter (.coercion "temperature" "float" "\"warm\""),
        .attribute .maxTokens (.int minSigned), .attribute .topK (.int 40),
        .attribute .stream (.bool true)]⟩ := by
  intro span least request other set
  have hopen : span.isOpen = true := rfl
  have hsame : ∀ p : Parameter, other.lookup p.name = request.lookup p.name := by
    intro p
    cases p <;> rfl
  have hgiven : Parameter.GivenAs minSigned least :=
    .text [' '] ['\u00a0', '\n'] (List.forall_mem_singleton.mpr rfl)
      (List.forall_mem_cons.mpr ⟨rfl, List.forall_mem_singleton.mpr rfl⟩)
  obtain ⟨horder, -, -, -, hint⟩ := parameters_each_alone hopen ⟨1⟩ request
  exact ⟨hopen, hsame, hgiven, horder other hsame,
    hint .maxTokens minSigned least (.inl rfl) hgiven rfl,
    hint .topK 40 (.ofInt64 40) (.inr rfl) .number rfl, rfl⟩

end Span
end CallScope
