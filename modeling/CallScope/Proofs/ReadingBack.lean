import CallScope.Config
import CallScope.Proofs.CallEntries
import CallScope.Proofs.MessageForms

/-!
# What is decoded reads back

Whatever a decoder makes of a value, written as JSON again it is decoded as
the same (`Json.Value.Stable`): a call keeps its shape, a part of a message
that was kept as it was is kept again, and what was absent is absent again.

For most types there is nothing more to say than that everything reads back.
Four kinds of things do not, and none of them comes of decoding: a value that
may be absent and is present as `null`, since `null` reads as absent; an object
that repeats a key, since the key is read once; a double that is not finite,
since JSON has no text for it; and a part of a message that is kept as it was
although it has the form of a part with text. So each of the types that can
hold such a thing has a condition `Readable`, under which its values read back
(`decode_toValue`), and which everything that is decoded meets
(`readable_of_decode`).

That the value which is decoded repeats no key itself is needed for parts of
messages alone. A part that repeats a key is not read as a part with text, and
the value that is kept of it does not repeat the key any more, so that it may
be read as one then.
-/

namespace CallScope

open Json Decode

/-! ## Records of plain fields -/

theorem Decode.word_ofUInt64 (expected : String) (n : UInt64) :
    (word expected).ofValue (.ofUInt64 n) = .ok n := by
  simp [word, Decoder.ofValue, Draft.ofValue, Value.ofUInt64]

theorem Role.decode_toValue (r : Role) : Role.decode.ofValue r.toValue = .ok r := by
  cases r <;> rfl

theorem CanonicalCall.decode_toValue (c : CanonicalCall) :
    CanonicalCall.decode.ofValue c.toValue = .ok c := by
  obtain ⟨name, arguments⟩ := c
  cases arguments <;> rfl

theorem SpanStatus.decode_toValue (s : SpanStatus) :
    SpanStatus.decode.ofValue s.toValue = .ok s := by
  cases s <;> rfl

theorem MetricTags.decode_toValue (t : MetricTags) :
    MetricTags.decode.ofValue t.toValue = .ok t := rfl

theorem MetricNames.decode_toValue (m : MetricNames) :
    MetricNames.decode.ofValue m.toValue = .ok m := rfl

theorem Logging.decode_toValue (l : Logging) : Logging.decode.ofValue l.toValue = .ok l := rfl

theorem Usage.decode_toValue (u : Usage) : Usage.decode.ofValue u.toValue = .ok u := by
  have hword := word_ofUInt64 "u64"
  unfold decode toValue
  rw [Record.decode_object, Record.fillMembers_cons rfl rfl (hword u.prompt),
    Record.fillMembers_cons rfl rfl (hword u.completion),
    Record.fillMembers_cons rfl rfl (hword u.total)]
  rfl

theorem Limits.decode_toValue (l : Limits) : Limits.decode.ofValue l.toValue = .ok l := by
  have hword := word_ofUInt64 "usize"
  unfold decode toValue
  rw [Record.decode_object, Record.fillMembers_cons rfl rfl (hword l.inputChars),
    Record.fillMembers_cons rfl rfl (hword l.outputChars),
    Record.fillMembers_cons rfl rfl (hword l.toolArgumentChars),
    Record.fillMembers_cons rfl rfl (hword l.indexedToolCalls)]
  rfl

theorem Config.decode_toValue (c : Config) : Config.decode.ofValue c.toValue = .ok c := by
  unfold decode toValue
  rw [Record.decode_object, Record.fillMembers_cons rfl rfl c.limits.decode_toValue,
    Record.fillMembers_cons rfl rfl c.metrics.decode_toValue,
    Record.fillMembers_cons rfl rfl c.logging.decode_toValue]
  rfl

/-! ## Values of attributes -/

/-- The double nearest to a JSON number is finite. -/
theorem Json.Number.isFinite_toDouble (n : Number) : n.toDouble.isFinite = true := by
  cases n with
  | double x finite => exact finite
  | integer n =>
    have hlower := n.lower
    have hupper := n.upper
    exact Double.isFinite_ofInt (show 64 < 1024 by decide) (by omega)

namespace AttrValue

/-- **A value of an attribute that reads back.** -/
def Readable : AttrValue → Prop
  | .double x => x.isFinite = true
  | _ => True

/-- **A value of an attribute is read back**, an integer as an integer and a
double as a double. -/
theorem decode_toValue {a : AttrValue} (h : a.Readable) : decode.ofValue a.toValue = .ok a := by
  unfold decode
  rw [untagged_ofValue]
  cases a with
  | bool b => rfl
  | int n =>
    have hint : decodeInt .settled (.ofValue (.ofInt64 n)) = .ok (.int n) := by
      simp [decodeInt, Draft.ofValue, Value.ofInt64]
    rw [toValue, firstOf_cons_of_ne (fun _ h => by cases h), firstOf_cons hint]
  | double x =>
    have hx : toValue (.double x) = .number (.double x h) := dif_pos h
    rw [hx]
    rfl
  | text s => rfl

/-- Every value of an attribute that is read reads back. -/
theorem readable_of_decode {mode : Mode} {d : Draft} {a : AttrValue}
    (h : decode mode d = .ok a) : a.Readable := by
  rcases firstOf_cons_cases (firstOf_of_untagged h) with hbool | ⟨-, h⟩
  · obtain ⟨b, -, rfl⟩ := Draft.exists_of_map_eq_ok hbool
    trivial
  rcases firstOf_cons_cases h with hint | ⟨-, h⟩
  · unfold decodeInt at hint
    split at hint
    · split at hint
      · cases hint
        trivial
      · cases hint
    · exact absurd hint (reject_ne_ok _ _ _)
  rcases firstOf_cons_cases h with hdouble | ⟨-, h⟩
  · unfold decodeDouble at hdouble
    split at hdouble
    · cases hdouble
      exact Number.isFinite_toDouble _
    · exact absurd hdouble (reject_ne_ok _ _ _)
  rcases firstOf_cons_cases h with htext | ⟨-, h⟩
  · obtain ⟨s, -, rfl⟩ := Draft.exists_of_map_eq_ok htext
    trivial
  · cases h

end AttrValue

/-! ## Calls -/

namespace CompactCall

/-- **A compact call that reads back**: its parameters, if there are any, are
not `null`, and no object in them repeats a key. -/
structure Readable (c : CompactCall) : Prop where
  notNull : c.parameters ≠ some .null
  distinctKeys : ∀ v ∈ c.parameters, v.distinctKeys = true

/-- **A compact call is read back.** -/
theorem decode_toValue {c : CompactCall} (h : c.Readable) : decode.ofValue c.toValue = .ok c := by
  obtain ⟨name, parameters⟩ := c
  have hname : string.ofValue (.string name) = .ok name := rfl
  have hparameters : (option any).ofValue (.ofOption id parameters) = .ok parameters := by
    cases parameters with
    | none => rfl
    | some v =>
      exact option_any_ofValue (fun hv => h.notNull (congrArg some hv)) (h.distinctKeys v rfl)
  unfold decode toValue
  rw [Record.decode_object, Record.fillMembers_cons rfl rfl hname,
    Record.fillMembers_cons rfl rfl hparameters]
  rfl

theorem field_parameters : record.Field "parameters" (option any) (·.parameters) :=
  Record.field_of_slots [_] [] rfl rfl (fun _ _ => rfl)
    (List.forall_mem_singleton.mpr (Record.leaves_slot (by decide) fun _ _ => rfl))

/-- Every compact call that is read reads back. -/
theorem readable_of_decode {mode : Mode} {d : Draft} {c : CompactCall}
    (h : decode mode d = .ok c) : c.Readable := by
  obtain ⟨kept, hbuild, hnull, hkeys⟩ := field_parameters.kept_any h
  obtain ⟨name, -, rfl⟩ := Draft.exists_of_map_eq_ok hbuild
  exact ⟨hnull, hkeys⟩

/-- A compact call has not the OpenAI shape, since it has no function. -/
theorem decode_openAi_ne_ok (c : CompactCall) (call : OpenAiCall) :
    OpenAiCall.decode.ofValue c.toValue ≠ .ok call := by
  intro h
  obtain ⟨kept, hkept, hbuild⟩ := Record.exists_of_decode_object h
  obtain ⟨f, hf, -⟩ := Draft.exists_of_map_eq_ok hbuild
  rcases OpenAiCall.field_function.read hkept with ⟨-, hnone⟩ | ⟨v, b, hlookup, -⟩
  · cases hnone.symm.trans (eq_some_of_required hf)
  · cases hlookup

end CompactCall

namespace AnyCall

/-- **A call that reads back**, in its shape. -/
def Readable : AnyCall → Prop
  | .openAi c => c.Readable
  | .compact c => c.Readable

/-- **A call is read back in its own shape**, whichever it is. -/
theorem decode_toValue {c : AnyCall} (h : c.Readable) : decode.ofValue c.toValue = .ok c := by
  cases c with
  | openAi c => exact decode_openAi h
  | compact c =>
    show decode.ofValue c.toValue = _
    rw [decode_ofValue]
    split
    · rename_i call hcall
      exact absurd hcall (c.decode_openAi_ne_ok call)
    · rw [CompactCall.decode_toValue h]

/-- Every call that is read reads back. -/
theorem readable_of_decode {mode : Mode} {d : Draft} {c : AnyCall}
    (h : decode mode d = .ok c) : c.Readable := by
  rcases firstOf_cons_cases (firstOf_of_untagged h) with hopenAi | ⟨-, h⟩
  · obtain ⟨call, hcall, rfl⟩ := Draft.exists_of_map_eq_ok hopenAi
    exact OpenAiCall.readable_of_decode hcall
  rcases firstOf_cons_cases h with hcompact | ⟨-, h⟩
  · obtain ⟨call, hcall, rfl⟩ := Draft.exists_of_map_eq_ok hcompact
    exact CompactCall.readable_of_decode hcall
  · cases h

end AnyCall

/-! ## Messages -/

namespace ContentPart

/-- **A part that reads back**: one that was kept as it was has not the form of
a part with text, and repeats no key. -/
def Readable : ContentPart → Prop
  | .text _ _ => True
  | .other v => v.distinctKeys = true
    ∧ ∀ part, (record.decodeObject "a part with text").ofValue v ≠ .ok part

/-- **A part is read back**, with text or as it is. -/
theorem decode_toValue {part : ContentPart} (h : part.Readable) :
    decode.ofValue part.toValue = .ok part := by
  unfold decode
  rw [untagged_ofValue]
  cases part with
  | text kind s => cases kind <;> rfl
  | other v =>
    have hany : (any.map ContentPart.other) .settled (.ofValue v) = .ok (.other v) := by
      show Except.map _ (flawed ((Draft.ofValue v).value none)) = _
      rw [Draft.value_ofValue_inHand h.1]
      rfl
    rw [toValue, firstOf_cons_of_ne h.2, firstOf_cons hany]

/-- What is read as a part with text is one. -/
theorem eq_text_of_decodeObject {expected : String} {mode : Mode} {d : Draft} {part : ContentPart}
    (h : record.decodeObject expected mode d = .ok part) : ∃ kind s, part = .text kind s := by
  unfold Record.decodeObject at h
  split at h
  · obtain ⟨kept, -, hbuild⟩ := Record.exists_kept (p := fun _ => True) trivial
      (fun _ _ _ _ _ _ _ _ _ => trivial) h
    obtain ⟨s, -, rfl⟩ := Draft.exists_of_map_eq_ok hbuild
    exact ⟨_, s, rfl⟩
  · exact absurd h (reject_ne_ok _ _ _)

/-- Every part that is read of a value which repeats no key reads back. -/
theorem readable_of_decode {mode : Mode} {v : Value} (hkeys : v.distinctKeys = true)
    {part : ContentPart} (h : decode mode (.ofValue v) = .ok part) : part.Readable := by
  rcases firstOf_cons_cases (firstOf_of_untagged h) with htext | ⟨hnot, h⟩
  · obtain ⟨kind, s, rfl⟩ := eq_text_of_decodeObject htext
    trivial
  rcases firstOf_cons_cases h with hother | ⟨-, h⟩
  · have hany : any .settled (.ofValue v) = .ok v :=
      congrArg flawed (Draft.value_ofValue_inHand hkeys)
    cases hother.symm.trans (congrArg (Except.map ContentPart.other) hany)
    exact ⟨hkeys, hnot⟩
  · cases h

end ContentPart

namespace Content

/-- **Content that reads back**: all its parts do. -/
def Readable : Content → Prop
  | .text _ => True
  | .parts items => ∀ part ∈ items, part.Readable

/-- **Content is read back**, as a text or as parts. -/
theorem decode_toValue {c : Content} (h : c.Readable) : decode.ofValue c.toValue = .ok c := by
  unfold decode
  rw [untagged_ofValue]
  cases c with
  | text s => rfl
  | parts items =>
    have hitems : (list ContentPart.decode).ofValue (.array (items.map ContentPart.toValue))
        = .ok items := list_ofValue_map fun part hpart => ContentPart.decode_toValue (h part hpart)
    rw [toValue, firstOf_cons_of_ne (fun _ h => by cases h),
      firstOf_cons (congrArg (Except.map Content.parts) hitems)]

/-- Content that is read of a value which repeats no key reads back. -/
theorem readable_of_decode {mode : Mode} {v : Value} (hkeys : v.distinctKeys = true)
    {c : Content} (h : decode mode (.ofValue v) = .ok c) : c.Readable := by
  rcases firstOf_cons_cases (firstOf_of_untagged h) with htext | ⟨-, h⟩
  · obtain ⟨s, -, rfl⟩ := Draft.exists_of_map_eq_ok htext
    trivial
  rcases firstOf_cons_cases h with hparts | ⟨-, h⟩
  · obtain ⟨items, hitems, rfl⟩ := Draft.exists_of_map_eq_ok hparts
    obtain ⟨values, rfl⟩ := exists_of_list_ofValue hitems
    rw [Value.distinctKeys, Value.distinctKeysItems_iff] at hkeys
    exact forall_of_list_ofValue hitems fun v hv part hpart =>
      ContentPart.readable_of_decode (hkeys v hv) hpart
  · cases h

end Content

namespace Message

/-- **A message that reads back**: its content does, if it has any. -/
def Readable (m : Message) : Prop := ∀ c ∈ m.content, c.Readable

/-- **A message is read back**, with content or without. -/
theorem decode_toValue {m : Message} (h : m.Readable) : decode.ofValue m.toValue = .ok m := by
  obtain ⟨role, content⟩ := m
  have hcontent : (option Content.decode).ofValue (.ofOption Content.toValue content)
      = .ok content := by
    cases content with
    | none => rfl
    | some c =>
      have hdraft : Draft.ofValue c.toValue ≠ .null := by
        cases c <;> exact Draft.noConfusion
      show option Content.decode .settled (.ofValue c.toValue) = _
      rw [option_of_ne_null hdraft]
      exact congrArg (Except.map some) (Content.decode_toValue (h c rfl))
  unfold decode toValue
  rw [Record.decode_object, Record.fillMembers_cons rfl rfl role.decode_toValue,
    Record.fillMembers_cons rfl rfl hcontent]
  rfl

/-- Every message that is read of a value which repeats no key reads back. -/
theorem readable_of_decode {v : Value} (hkeys : v.distinctKeys = true) {m : Message}
    (h : decode.ofValue v = .ok m) : m.Readable := by
  obtain ⟨kept, hbuild, hkept⟩ := field_content.exists_kept h
  obtain ⟨role, -, rfl⟩ := Draft.exists_of_map_eq_ok hbuild
  intro c hc
  obtain ⟨mode, child, hchild, hread⟩ := hkept (some c) (eq_some_some_of_getD hc)
  obtain ⟨w, hw, rfl⟩ := Draft.exists_of_mem_children hkeys hchild
  have hne : Draft.ofValue w ≠ .null := by
    intro hnull
    rw [hnull] at hread
    cases hread
  rw [option_of_ne_null hne] at hread
  obtain ⟨_, hread, heq⟩ := Draft.exists_of_map_eq_ok hread
  cases heq
  exact Content.readable_of_decode hw hread

end Message

/-! ## All types -/

namespace Json.Value

/-- **What a decoder makes of a value reads back**: written as JSON again, it is
decoded as the same. -/
def StableAs {α : Type} (v : Value) (decode : Decoder α) (toValue : α → Value) : Prop :=
  ∀ a, decode.ofValue v = .ok a → decode.ofValue (toValue a) = .ok a

/-- **Decoding a value is stable**: whatever it is decoded as reads back. -/
structure Stable (v : Value) : Prop where
  contentPart : v.StableAs ContentPart.decode ContentPart.toValue
  content : v.StableAs Content.decode Content.toValue
  message : v.StableAs Message.decode Message.toValue
  usage : v.StableAs Usage.decode Usage.toValue
  canonicalCall : v.StableAs CanonicalCall.decode CanonicalCall.toValue
  compactCall : v.StableAs CompactCall.decode CompactCall.toValue
  functionCall : v.StableAs FunctionCall.decode FunctionCall.toValue
  openAiCall : v.StableAs OpenAiCall.decode OpenAiCall.toValue
  anyCall : v.StableAs AnyCall.decode AnyCall.toValue
  attrValue : v.StableAs AttrValue.decode AttrValue.toValue
  spanStatus : v.StableAs SpanStatus.decode SpanStatus.toValue
  metricTags : v.StableAs MetricTags.decode MetricTags.toValue
  limits : v.StableAs Limits.decode Limits.toValue
  metricNames : v.StableAs MetricNames.decode MetricNames.toValue
  logging : v.StableAs Logging.decode Logging.toValue
  config : v.StableAs Config.decode Config.toValue

/-- **Decoding is stable** at every value that repeats no key. In particular a
call keeps its shape, and a part of a message that was kept as it was is never
read as a part with text afterwards, nor the other way round, since these are
different results. -/
theorem stable {v : Value} (hkeys : v.distinctKeys = true) : v.Stable where
  contentPart _ h := ContentPart.decode_toValue (ContentPart.readable_of_decode hkeys h)
  content _ h := Content.decode_toValue (Content.readable_of_decode hkeys h)
  message _ h := Message.decode_toValue (Message.readable_of_decode hkeys h)
  usage u _ := u.decode_toValue
  canonicalCall c _ := c.decode_toValue
  compactCall _ h := CompactCall.decode_toValue (CompactCall.readable_of_decode h)
  functionCall _ h := FunctionCall.decode_toValue (FunctionCall.readable_of_decode h)
  openAiCall _ h := OpenAiCall.decode_toValue (OpenAiCall.readable_of_decode h)
  anyCall _ h := AnyCall.decode_toValue (AnyCall.readable_of_decode h)
  attrValue _ h := AttrValue.decode_toValue (AttrValue.readable_of_decode h)
  spanStatus s _ := s.decode_toValue
  metricTags t _ := t.decode_toValue
  limits l _ := l.decode_toValue
  metricNames m _ := m.decode_toValue
  logging l _ := l.decode_toValue
  config c _ := c.decode_toValue

/-- A call in the compact shape whose parameters stand in an array of its
fields: it is written as an object and keeps its shape. As a part of a message
it is kept as it is. -/
theorem stable_compact :
    let v : Value := .array [.string "search", .object [("text", .string "Lean")]]
    let call : AnyCall := .compact ⟨"search", some (.object [("text", .string "Lean")])⟩
    v.distinctKeys = true
      ∧ (AnyCall.decode.ofValue v = .ok call
        ∧ call.toValue = .object [
          ("name", .string "search"), ("parameters", .object [("text", .string "Lean")])]
        ∧ AnyCall.decode.ofValue call.toValue = .ok call)
      ∧ ContentPart.decode.ofValue v = .ok (.other v)
      ∧ ContentPart.decode.ofValue (ContentPart.toValue (.other v)) = .ok (.other v) := by
  intro v call
  have hkeys : v.distinctKeys = true := by decide
  have hcall : AnyCall.decode.ofValue v = .ok call := rfl
  have hpart : ContentPart.decode.ofValue v = .ok (.other v) := rfl
  have hstable := stable hkeys
  exact ⟨hkeys, ⟨hcall, rfl, hstable.anyCall call hcall⟩, hpart, hstable.contentPart _ hpart⟩

end Json.Value
end CallScope
