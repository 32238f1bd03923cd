import CallScope.Proofs.ReadingBack

/-!
# One call in two shapes

The same call can be written in the compact and in the OpenAI shape. Its
arguments then take different paths: those of a compact call are written as
spaced text when the call is converted, and those of an OpenAI call, unless they
are a text already, as compact text when it is recorded. The two texts differ,
and denote the same value (`Json.Denotes`), so that whoever reads the arguments
of a recorded call need not know in which shape it came
(`AnyCall.shapes_agree`).

Spaced text is written as bytes, and a call whose bytes were not those of a text
would be dropped (`CompactCall.convertAll`). There is no such call
(`CompactCall.convertAll_eq`).
-/

namespace CallScope

open Json Decode

/-! ## Texts that denote a value -/

/-- **A text denotes a value**: read without a bound on its containers, it is the
value and nothing more, and where texts may nest so deep, it is read as the
value. -/
structure Json.Denotes (text : String) (v : Value) : Prop where
  unbounded : ∃ draft, Draft.ofText text = (draft, false) ∧ draft.value none = .ok v
  bounded : Value.ofText text = fitting v.depth nestingLimit v

namespace Json.Denotes

/-- In every layout that can be read, the text of a value whose numbers read back
denotes the value. -/
theorem write {layout : Layout} (hlayout : layout.Readable) {v : Value}
    (hkeys : v.distinctKeys = true) (hnumbers : v.NumbersReadBack) :
    Denotes (String.ofList (v.write layout)) v where
  unbounded := by
    refine ⟨_, Draft.ofText_write hlayout v, ?_⟩
    rw [Value.reread_eq hnumbers, Draft.value_ofValue_inHand hkeys]
  bounded := Value.ofText_write hlayout hkeys hnumbers

theorem spaced {v : Value} (hkeys : v.distinctKeys = true) (hnumbers : v.NumbersReadBack) :
    Denotes v.spaced v := write Layout.readable_spaced hkeys hnumbers

theorem compact {v : Value} (hkeys : v.distinctKeys = true) (hnumbers : v.NumbersReadBack) :
    Denotes v.compact v := write Layout.readable_compact hkeys hnumbers

/-- A text is read as the value that it denotes if it may nest so deep. -/
theorem ofText {text : String} {v : Value} (h : Denotes text v) (hdepth : v.depth ≤ 127) :
    Value.ofText text = .ok v := h.bounded.trans (fitting_of_le hdepth v)

end Json.Denotes

/-! ## Converting compact calls -/

namespace CompactCall

/-- The arguments of a converted call: its parameters, or an empty object if it
has none. -/
def argumentsValue (c : CompactCall) : Value := c.parameters.getD (.object [])

/-- Spaced text, if the bytes that are written are those of a text. -/
def spacedText? (v : Value) : Option String :=
  (Text.Utf8.decode (Text.Utf8.bytes v.spaced)).toOption

/-- **Compact calls, converted one by one**, without those whose parameters
cannot be written. -/
def convertAll (calls : List CompactCall) : List OpenAiCall :=
  calls.filterMap fun c => (spacedText? c.argumentsValue).map (.ofFunction c.name)

/-- Every value can be written. -/
theorem spacedText?_eq (v : Value) : spacedText? v = some v.spaced := by
  have hdecode : Text.Utf8.decode (Text.Utf8.bytes v.spaced) = .ok v.spaced :=
    Text.Utf8.decode_bytes v.spaced
  unfold spacedText?
  rw [hdecode]
  rfl

/-- **No call is dropped**: all are converted, in their order. -/
theorem convertAll_eq (calls : List CompactCall) : convertAll calls = calls.map toOpenAi := by
  unfold convertAll
  simp only [spacedText?_eq]
  -- every entry is kept, and kept as what the conversion of a single call makes of it
  show calls.filterMap (some ∘ toOpenAi) = _
  exact congrFun List.filterMap_eq_map calls

/-- The calls of a value are converted like those of any list. -/
theorem convert_eq_convertAll (v : Value) : convert v = convertAll (ofValue v) :=
  (convertAll_eq (ofValue v)).symm

/-- **A converted call**: under the name of the compact one, with a text that
denotes its parameters. -/
def ConvertsTo (c : CompactCall) (call : OpenAiCall) : Prop :=
  ∃ text, call.canonical = ⟨c.name, some text⟩ ∧ Denotes text c.argumentsValue

theorem convertsTo_toOpenAi {c : CompactCall}
    (h : ∀ v ∈ c.parameters, v.distinctKeys = true ∧ v.NumbersReadBack) :
    c.ConvertsTo c.toOpenAi := by
  obtain ⟨hkeys, hnumbers⟩ :
      c.argumentsValue.distinctKeys = true ∧ c.argumentsValue.NumbersReadBack := by
    unfold argumentsValue
    cases hparameters : c.parameters with
    | none => exact ⟨rfl, fun _ hn => absurd hn List.not_mem_nil⟩
    | some v => exact h v hparameters
  exact ⟨c.argumentsValue.spaced, rfl, Denotes.spaced hkeys hnumbers⟩

end CompactCall

namespace AnyCall

/-! ## Reading both shapes -/

/-- An entry in the compact shape is converted. -/
theorem ofEntry?_compact (name : String) {p : Value} (hnull : p ≠ .null)
    (hkeys : p.distinctKeys = true) :
    ofEntry? (.object [("name", .string name), ("parameters", p)])
      = some (CompactCall.toOpenAi ⟨name, some p⟩) := by
  have hreadable : CompactCall.Readable ⟨name, some p⟩ :=
    ⟨fun h => hnull (Option.some.inj h), fun v hv => by cases hv; exact hkeys⟩
  show ofEntry? (CompactCall.toValue ⟨name, some p⟩) = _
  rw [ofEntry?_of_not_openAi (CompactCall.decode_openAi_ne_ok _),
    CompactCall.decode_toValue hreadable]
  rfl

/-- An entry in the OpenAI shape that has nothing but its function is kept as it
is. -/
theorem ofEntry?_openAi (name : String) {p : Value} (hnull : p ≠ .null)
    (hkeys : p.distinctKeys = true) :
    ofEntry? (.object [("function", .object [("name", .string name), ("arguments", p)])])
      = some ⟨none, OpenAiCall.defaultKind, ⟨some name, some p⟩⟩ := by
  have hreadable : FunctionCall.Readable ⟨some name, some p⟩ :=
    ⟨fun h => hnull (Option.some.inj h), fun v hv => by cases hv; exact hkeys⟩
  have hfunction : FunctionCall.decode.ofValue (.object [("name", .string name), ("arguments", p)])
      = .ok ⟨some name, some p⟩ := FunctionCall.decode_toValue hreadable
  refine ofEntry?_eq_some_iff.mpr (.openAi ?_)
  unfold OpenAiCall.decode
  rw [Record.decode_object, Record.fillMembers_cons rfl rfl hfunction]
  rfl

/-- What is recorded of arguments that are no text is their compact text. -/
theorem canonical_of_no_text {name kind : String} {id : Option String} {p : Value}
    (hstring : ∀ s, p ≠ .string s) :
    OpenAiCall.canonical ⟨id, kind, ⟨some name, some p⟩⟩ = ⟨name, some p.compact⟩ := by
  cases p with
  | string s => exact absurd rfl (hstring s)
  | _ => rfl

/-- **Both shapes of a call come to the same call.** An entry of a list in the
compact shape and one in the OpenAI shape, with the same name and the same
arguments, are recorded under that name, with texts that denote these arguments
if the numbers in them read back. And however many compact calls are converted,
those of a value among them, none is dropped: they keep their order and their
names, and each one's text denotes its parameters, or an empty object if it has
none, if the numbers in these read back. -/
theorem shapes_agree :
    (∀ (name : String) (p : Value), p ≠ .null → (∀ s, p ≠ .string s) → p.distinctKeys = true →
      ∃ compact openAi,
        read (.array [
            .object [("name", .string name), ("parameters", p)],
            .object [("function", .object [("name", .string name), ("arguments", p)])]])
          = .ok [compact, openAi]
        ∧ compact.canonical = ⟨name, some p.spaced⟩ ∧ openAi.canonical = ⟨name, some p.compact⟩
        ∧ (p.NumbersReadBack → Denotes p.spaced p ∧ Denotes p.compact p
          ∧ (p.depth ≤ 127 → Value.ofText p.spaced = .ok p ∧ Value.ofText p.compact = .ok p)))
    ∧ (∀ v, CompactCall.convert v = CompactCall.convertAll (CompactCall.ofValue v))
    ∧ (∀ calls : List CompactCall,
      (CompactCall.convertAll calls).map (fun call => call.canonical.name)
        = calls.map fun c => c.name)
    ∧ ∀ calls : List CompactCall,
      (∀ c ∈ calls, ∀ v ∈ c.parameters, v.distinctKeys = true ∧ v.NumbersReadBack) →
        List.Forall₂ CompactCall.ConvertsTo calls (CompactCall.convertAll calls) := by
  refine ⟨fun name p hnull hstring hkeys => ?_, CompactCall.convert_eq_convertAll,
    fun calls => ?_, fun calls hcalls => ?_⟩
  · have hread := map_snd_readEntries [
      .object [("name", .string name), ("parameters", p)],
      .object [("function", .object [("name", .string name), ("arguments", p)])]] 0
    rw [List.filterMap_cons_some (ofEntry?_compact name hnull hkeys),
      List.filterMap_cons_some (ofEntry?_openAi name hnull hkeys)] at hread
    refine ⟨CompactCall.toOpenAi ⟨name, some p⟩,
      ⟨none, OpenAiCall.defaultKind, ⟨some name, some p⟩⟩, congrArg Except.ok hread, rfl,
      canonical_of_no_text hstring, fun hnumbers => ?_⟩
    have hspaced := Denotes.spaced hkeys hnumbers
    have hcompact := Denotes.compact hkeys hnumbers
    exact ⟨hspaced, hcompact, fun hdepth => ⟨hspaced.ofText hdepth, hcompact.ofText hdepth⟩⟩
  · rw [CompactCall.convertAll_eq, List.map_map]
    rfl
  · rw [CompactCall.convertAll_eq, List.forall₂_map_right_iff, List.forall₂_same]
    exact fun c hc => CompactCall.convertsTo_toOpenAi (hcalls c hc)

/-- Two texts that are not the same and denote the same arguments, and calls with
and without parameters. -/
theorem shapes_agree_nested :
    let p : Value := .object [("é", .array [.bool true, .null])]
    let calls : List CompactCall := [⟨"first", none⟩, ⟨"second", some p⟩]
    (p.distinctKeys = true ∧ p.NumbersReadBack ∧ p.depth = 2
        ∧ p.spaced = "\x7b\"\\u00e9\": [true, null]\x7d"
        ∧ p.compact = "\x7b\"é\":[true,null]\x7d")
      ∧ Value.ofText p.spaced = .ok p ∧ Value.ofText p.compact = .ok p
      ∧ List.Forall₂ CompactCall.ConvertsTo calls (CompactCall.convertAll calls) := by
  intro p calls
  have hkeys : p.distinctKeys = true := by decide
  have hnumbers : p.NumbersReadBack := by decide
  have hnull : p ≠ .null := show Value.object _ ≠ .null from nofun
  have hstring : ∀ s, p ≠ .string s := show ∀ s, Value.object _ ≠ .string s from nofun
  obtain ⟨hshapes, -, -, hcalls⟩ := shapes_agree
  obtain ⟨-, -, -, -, -, hdenotes⟩ := hshapes "first" p hnull hstring hkeys
  obtain ⟨-, -, hread⟩ := hdenotes hnumbers
  obtain ⟨hspaced, hcompact⟩ := hread (by decide)
  refine ⟨⟨hkeys, hnumbers, by decide, by rfl, by rfl⟩, hspaced, hcompact, hcalls calls ?_⟩
  refine List.forall_mem_cons.mpr ⟨nofun, List.forall_mem_singleton.mpr fun v hv => ?_⟩
  cases hv
  exact ⟨hkeys, hnumbers⟩

end AnyCall
end CallScope
