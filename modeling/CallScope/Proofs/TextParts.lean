import CallScope.Proofs.Refusals

/-!
# The text of a message in parts

The content of a message may be a list of parts of any kind: texts, images, and
whatever else a provider came up with. What is shown of it is the text that its
parts bear, and which of them bear a text is a matter of two members alone
(`ContentPart.textOf?`). Every other part is read as it is and adds nothing,
neither text nor a space (`Content.exists_decode_array`). So a message in parts is
never refused, and what is shown of it stays the same whatever parts without a
text are put between the others (`Span.input_of_parts`).
-/

namespace CallScope

open Json Decode

namespace ContentPart

/-! ## Which parts bear a text -/

/-- **The text that an entry of a list of parts bears**: that of an object with a
string `text` whose `type` is absent, `null` or a string. -/
def textOf? : Value → Option String
  | .object members =>
    match members.lookup "type" with
    | none | some .null | some (.string _) => (members.lookup "text").bind Value.string?
    | _ => none
  | _ => none

/-- What may be the type of a part with text, or the lack of one. -/
def IsType (type? : Option Value) : Prop :=
  type? = none ∨ type? = some .null ∨ ∃ kind, type? = some (.string kind)

/-- **An entry bears a text** exactly if it is an object with that text and with a
type that is absent, `null` or a string. -/
theorem textOf?_eq_some_iff (entry : Value) (s : String) :
    textOf? entry = some s
      ↔ ∃ members, entry = .object members ∧ members.lookup "text" = some (.string s)
        ∧ IsType (members.lookup "type") := by
  have htext : ∀ text? : Option Value, text?.bind Value.string? = some s
      ↔ text? = some (.string s) := by
    intro text?
    rw [Option.bind_eq_some_iff]
    constructor
    · rintro ⟨v, rfl, hv⟩
      cases v with
      | string t =>
        cases hv
        rfl
      | _ => cases hv
    · rintro rfl
      exact ⟨_, rfl, rfl⟩
  constructor
  · intro h
    unfold textOf? at h
    split at h
    · rename_i members
      split at h
      · rename_i htype
        exact ⟨members, rfl, (htext _).mp h, .inl htype⟩
      · rename_i htype
        exact ⟨members, rfl, (htext _).mp h, .inr (.inl htype)⟩
      · rename_i kind htype
        exact ⟨members, rfl, (htext _).mp h, .inr (.inr ⟨kind, htype⟩)⟩
      · cases h
    · cases h
  · rintro ⟨members, rfl, hs, htype⟩
    unfold textOf?
    dsimp only
    rcases htype with htype | htype | ⟨kind, htype⟩
    all_goals
      rw [htype]
      exact (htext _).mpr hs

/-! ## Reading a part -/

theorem field_type : record.Field "type" (option string) (·.kind) :=
  Record.field_of_slots [] [_] rfl rfl (fun _ _ => rfl)
    (List.forall_mem_singleton.mpr (Record.leaves_slot (by decide) fun _ _ => rfl))

theorem field_text : record.Field "text" string (·.text) :=
  Record.field_of_slots [_] [] rfl rfl (fun _ _ => rfl)
    (List.forall_mem_singleton.mpr (Record.leaves_slot (by decide) fun _ _ => rfl))

/-- What may be a type is what can be read as one. -/
theorem isType_iff (v : Value) :
    IsType (some v) ↔ ∃ kind, (option string).ofValue v = .ok kind := by
  constructor
  · rintro (hnone | hnull | ⟨kind, hkind⟩)
    · cases hnone
    · cases hnull
      exact ⟨none, rfl⟩
    · cases hkind
      exact ⟨some kind, rfl⟩
  · rintro ⟨kind, hkind⟩
    by_cases hnull : v = .null
    · exact .inr (.inl (congrArg some hnull))
    · unfold Decoder.ofValue at hkind
      rw [option_of_ne_null (Draft.ofValue_ne_null hnull)] at hkind
      obtain ⟨s, hs, -⟩ := Draft.exists_of_map_eq_ok hkind
      exact .inr (.inr ⟨s, congrArg some (string_ofValue_eq_ok_iff.mp hs)⟩)

/-- **An object that bears a text** is read as a part with it, whatever else there
is in it. -/
theorem exists_decode_of_text {members : List (String × Value)}
    (hkeys : (Value.object members).distinctKeys = true) {text : String}
    (htext : members.lookup "text" = some (.string text))
    (htype : IsType (members.lookup "type")) :
    ∃ kind, record.decode.ofValue (.object members) = .ok (.text kind text) := by
  have hnodup := (Value.distinctKeys_object.mp hkeys).1
  obtain ⟨kept, hkept⟩ : ∃ kept, record.fillMembers .settled .closed (Draft.ofMembers members)
      record.blank = .ok kept := by
    refine Record.exists_fillMembers (fun slot _ => List.nodup_iff_count.mp hnodup slot.key) ?_
    simp only [record, List.forall_mem_cons]
    refine ⟨⟨_, _, _, field_type, fun v hv => ?_⟩, ⟨_, _, _, field_text, fun v hv => ?_⟩, nofun⟩
    · have hlookup := (Value.lookup_eq_some_iff_mem hnodup).mpr hv
      rw [show members.lookup "type" = some v from hlookup, isType_iff] at htype
      exact htype
    · cases htext.symm.trans ((Value.lookup_eq_some_iff_mem hnodup).mpr hv)
      exact ⟨text, rfl⟩
  have hentry : kept.text = some text := field_text.entry_of_lookup hkept htext rfl
  refine ⟨kept.kind.getD none, ?_⟩
  rw [Record.decode_object, hkept]
  show (required "text" kept.text).map _ = _
  rw [hentry]
  rfl

/-- **An object that is read as a part with text** bears that text. -/
theorem textOf?_of_decode {members : List (String × Value)} {part : ContentPart}
    (h : record.decode.ofValue (.object members) = .ok part) :
    textOf? (.object members) = part.text? := by
  obtain ⟨kept, hkept, hbuild⟩ := Record.exists_of_decode_object h
  obtain ⟨text, hrequired, rfl⟩ := Draft.exists_of_map_eq_ok hbuild
  refine (textOf?_eq_some_iff _ _).mpr ⟨members, rfl, ?_, ?_⟩
  · rcases field_text.read hkept with ⟨-, hnone⟩ | ⟨v, s, hv, hs, hentry⟩
    · cases hnone.symm.trans (eq_some_of_required hrequired)
    · cases hentry.symm.trans (eq_some_of_required hrequired)
      rw [hv, string_ofValue_eq_ok_iff.mp hs]
  · rcases field_type.read hkept with ⟨hnone, -⟩ | ⟨v, kind, hv, hkind, -⟩
    · exact .inl hnone
    · rw [hv, isType_iff]
      exact ⟨kind, hkind⟩

/-- **A part is read of any value**, with the text that the value bears. -/
theorem exists_decode (v : Value) (hkeys : v.distinctKeys = true) :
    ∃ part, decode.ofValue v = .ok part ∧ part.text? = textOf? v := by
  unfold decode
  rw [untagged_ofValue]
  by_cases hfits : ∃ part, (record.decodeObject "a part with text") .settled (.ofValue v) = .ok part
  · obtain ⟨part, hpart⟩ := hfits
    rw [firstOf_cons hpart]
    refine ⟨part, rfl, ?_⟩
    obtain ⟨members, rfl⟩ : ∃ members, v = .object members := by
      unfold Record.decodeObject at hpart
      split at hpart
      · rename_i hdraft
        cases v with
        | object members => exact ⟨members, rfl⟩
        | _ => cases hdraft
      · exact absurd hpart (reject_ne_ok _ _ _)
    exact (textOf?_of_decode hpart).symm
  · have hany : (any.map ContentPart.other) .settled (.ofValue v) = .ok (.other v) := by
      show Except.map _ (flawed ((Draft.ofValue v).value none)) = _
      rw [Draft.value_ofValue_inHand hkeys]
      rfl
    rw [firstOf_cons_of_ne (not_exists.mp hfits), firstOf_cons hany]
    refine ⟨.other v, rfl, ?_⟩
    -- a value that bears a text would have fitted
    refine (Option.eq_none_iff_forall_ne_some.mpr fun text htext => hfits ?_).symm
    obtain ⟨members, rfl, htext, htype⟩ := (textOf?_eq_some_iff v text).mp htext
    obtain ⟨kind, hdecode⟩ := exists_decode_of_text hkeys htext htype
    exact ⟨_, hdecode⟩

end ContentPart

/-! ## Reading content and messages -/

/-- **A list of values of any kind is read** if each of them is, as a list of what
is read of them. -/
theorem Decode.exists_list_ofValue {α : Type} {decode : Decoder α} {r : Value → α → Prop}
    {values : List Value} (h : ∀ v ∈ values, ∃ a, decode.ofValue v = .ok a ∧ r v a) :
    ∃ as, (list decode).ofValue (.array values) = .ok as ∧ List.Forall₂ r values as := by
  suffices hitems : ∃ as, listItems decode .settled .closed (Draft.ofItems values) = .ok as
      ∧ List.Forall₂ r values as from hitems
  induction values with
  | nil => exact ⟨[], rfl, .nil⟩
  | cons v rest ih =>
    rw [List.forall_mem_cons] at h
    obtain ⟨a, ha, hr⟩ := h.1
    obtain ⟨as, has, hrest⟩ := ih h.2
    refine ⟨a :: as, ?_, .cons hr hrest⟩
    rw [Draft.ofItems, listItems, show decode .settled _ = _ from ha]
    dsimp only
    rw [has]
    rfl

/-- **Content in parts is read**, whatever the parts are, and its text is what they
bear. -/
theorem Content.exists_decode_array {values : List Value}
    (hkeys : ∀ v ∈ values, v.distinctKeys = true) :
    ∃ content, decode.ofValue (.array values) = .ok content
      ∧ content.toText = String.intercalate " " (values.filterMap ContentPart.textOf?) := by
  obtain ⟨items, hitems, hall⟩ := exists_list_ofValue fun v hv =>
    ContentPart.exists_decode v (hkeys v hv)
  have htexts : items.filterMap ContentPart.text? = values.filterMap ContentPart.textOf? := by
    clear hkeys hitems
    induction hall with
    | nil => rfl
    | cons hpart _ ih => rw [List.filterMap_cons, List.filterMap_cons, hpart, ih]
  refine ⟨.parts items, ?_, congrArg (String.intercalate " ") htexts⟩
  unfold decode
  rw [untagged_ofValue, firstOf_cons_of_ne (fun _ h => by cases h),
    firstOf_cons (congrArg (Except.map Content.parts) hitems)]

namespace Message

/-- **A message of the user whose content can be read** is read, with that
content. -/
theorem exists_decode_of_content {entry : Value} (hkeys : entry.distinctKeys = true)
    (huser : FromUser entry) {v : Value} (hv : entry.get? "content" = some v)
    {content : Option Content} (hcontent : (option Content.decode).ofValue v = .ok content) :
    ∃ role, decode.ofValue entry = .ok ⟨role, content⟩ := by
  obtain ⟨members, rfl, hrole⟩ := huser
  have hnodup := (Value.distinctKeys_object.mp hkeys).1
  have hlookup : members.lookup "content" = some v := hv
  obtain ⟨kept, hkept⟩ : ∃ kept, record.fillMembers .settled .closed (Draft.ofMembers members)
      record.blank = .ok kept := by
    refine Record.exists_fillMembers (fun slot _ => List.nodup_iff_count.mp hnodup slot.key) ?_
    simp only [record, List.forall_mem_cons]
    refine ⟨⟨_, _, _, field_role, fun w hw => ?_⟩, ⟨_, _, _, field_content, fun w hw => ?_⟩, nofun⟩
    · cases hrole.symm.trans ((Value.lookup_eq_some_iff_mem hnodup).mpr hw)
      exact ⟨_, rfl⟩
    · cases hlookup.symm.trans ((Value.lookup_eq_some_iff_mem hnodup).mpr hw)
      exact ⟨content, hcontent⟩
  have hrole : kept.role = some (Role.ofName "user") :=
    field_role.entry_of_lookup hkept hrole rfl
  have hcontent : kept.content = some content :=
    field_content.entry_of_lookup hkept hlookup hcontent
  refine ⟨Role.ofName "user", ?_⟩
  unfold decode
  rw [Record.decode_object, hkept]
  show (required "role" kept.role).map _ = _
  rw [hrole, hcontent]
  rfl

end Message

namespace Span

/-! ## Showing a message in parts -/

/-- **A message in parts is shown**, as the text that its parts bear. -/
theorem step_input_of_parts {span : Span} (hopen : span.isOpen = true) (now : Moment)
    {payload entry : Value} (hlast : LastOfUser payload entry) (hkeys : entry.distinctKeys = true)
    {parts : List Value} (hparts : entry.get? "content" = some (.array parts)) :
    span.step true now (.set (.inputPayload payload))
      = ⟨span, none, [.attribute .inputMessage (.text (Text.excerpt span.limits.inputChars.toNat
          (String.intercalate " " (parts.filterMap ContentPart.textOf?))))]⟩ := by
  obtain ⟨before, after, rfl, huser, hafter⟩ := hlast
  have hvalues : ∀ v ∈ parts, v.distinctKeys = true :=
    Value.distinctKeysItems_iff.mp (Value.distinctKeys_of_get? hkeys hparts)
  obtain ⟨content, hcontent, htext⟩ := Content.exists_decode_array hvalues
  have hread : (option Content.decode).ofValue (.array parts) = .ok (some content) :=
    congrArg (Except.map some) hcontent
  obtain ⟨role, hmessage⟩ := Message.exists_decode_of_content hkeys huser hparts hread
  rw [step_set_of_open hopen, span.record_inputPayload_of_last huser before hafter]
  unfold recordEntry
  rw [hmessage, ← htext]
  rfl

/-- **What is shown of a message in parts is exactly what its text-bearing parts
say.** On an open span whose handle records, let the last message of the user in a
list have content in parts, of whatever kinds. Then nothing is warned of, and what
is shown, once, are the first characters of the texts of those parts that bear one,
in their order and joined by one space. So it is the same for all messages whose
text-bearing parts are the same, whatever else stands before, between and behind
them. -/
theorem input_of_parts {span : Span} (hopen : span.isOpen = true) (now : Moment)
    {payload entry : Value} (hlast : LastOfUser payload entry) (hkeys : entry.distinctKeys = true)
    {parts : List Value} (hparts : entry.get? "content" = some (.array parts)) :
    let set := fun payload => span.step true now (.set (.inputPayload payload))
    set payload
        = ⟨span, none, [.attribute .inputMessage (.text (Text.excerpt span.limits.inputChars.toNat
            (String.intercalate " " (parts.filterMap ContentPart.textOf?))))]⟩
      ∧ (∀ part ∈ parts, ∀ s, ContentPart.textOf? part = some s ↔ ∃ members,
          part = .object members ∧ members.lookup "text" = some (.string s)
            ∧ (members.lookup "type" = none ∨ members.lookup "type" = some .null
              ∨ ∃ kind, members.lookup "type" = some (.string kind)))
      ∧ ∀ {other changed : Value} {others : List Value}, LastOfUser other changed →
          changed.distinctKeys = true → changed.get? "content" = some (.array others) →
          (others.filter fun part => (ContentPart.textOf? part).isSome)
            = (parts.filter fun part => (ContentPart.textOf? part).isSome) →
          set other = set payload := by
  intro set
  have hset : set payload = _ := step_input_of_parts hopen now hlast hkeys hparts
  refine ⟨hset, fun part _ s => ContentPart.textOf?_eq_some_iff part s,
    fun {other changed others} hother hchanged hothers hsame => ?_⟩
  -- the texts are those of the parts that bear one
  have hbear : ∀ values : List Value, values.filterMap ContentPart.textOf?
      = (values.filter fun part => (ContentPart.textOf? part).isSome).filterMap
        ContentPart.textOf? := by
    intro values
    rw [List.filterMap_filter]
    refine congrArg (List.filterMap · values) (funext fun part => ?_)
    cases ContentPart.textOf? part <;> rfl
  have htexts : others.filterMap ContentPart.textOf? = parts.filterMap ContentPart.textOf? := by
    rw [hbear others, hbear parts, hsame]
  rw [hset, show set other = _ from step_input_of_parts hopen now hother hchanged hothers, htexts]

/-- Of eight parts three bear a text, one of them an empty one that is joined like
the others; without the five that bear none, the same is shown. -/
theorem input_of_parts_mixed :
    let span := ((Instrumentor.ofConfig { limits := { inputChars := 8 } }).start
      "gpt" "openai" none ⟨0⟩).span
    let hello : Value := .object [("type", .string "text"), ("text", .string "Hello")]
    let empty : Value := .object [("text", .string "")]
    let world : Value := .object [("text", .string "world"), ("type", .null), ("id", .ofInt64 1)]
    let image : Value := .object [("type", .string "image_url"), ("image_url", .object [])]
    let typed : Value := .object [("type", .ofInt64 5), ("text", .string "unseen")]
    let mixed : List Value := [image, hello, .ofInt64 7, empty, .array [.string "unseen"], typed,
      world, .string "unseen"]
    let message := fun parts => Value.object [("role", .string "user"), ("content", .array parts)]
    let payload := fun parts => Value.array [message parts, .object [("role", .string "tool")]]
    let set := fun parts => span.step true ⟨1⟩ (.set (.inputPayload (payload parts)))
    span.isOpen = true ∧ LastOfUser (payload mixed) (message mixed)
      ∧ (message mixed).distinctKeys = true
      ∧ set mixed = ⟨span, none, [.attribute .inputMessage (.text "Hello  w")]⟩
      ∧ set [hello, empty, world] = set mixed := by
  intro span hello empty world image typed mixed message payload set
  have hopen : span.isOpen = true := rfl
  have hlast : ∀ parts, LastOfUser (payload parts) (message parts) := fun parts =>
    ⟨[], [.object [("role", .string "tool")]], rfl, ⟨_, rfl, rfl⟩, fun other hother huser => by
      have hname := (isFromUser_iff other).mpr huser
      rw [List.mem_singleton.mp hother] at hname
      exact absurd hname (by decide)⟩
  obtain ⟨hshown, -, hsame⟩ := input_of_parts hopen ⟨1⟩ (hlast mixed) (by decide +kernel) rfl
  exact ⟨hopen, hlast mixed, by decide +kernel, hshown.trans (by decide +kernel),
    hsame (hlast [hello, empty, world]) (by decide +kernel) rfl rfl⟩

end Span
end CallScope
