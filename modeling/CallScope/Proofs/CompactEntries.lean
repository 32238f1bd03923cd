import CallScope.Proofs.ReadingBack

/-!
# Which entries are compact calls

A compact call is an object that names a tool, and a list of compact calls is
meant to be read as its named entries: one that has no string `name` is to be
dropped. A record, however, may also be written as an array of its fields. So an
array of a string, with or without one more item behind it, is read as a call as
well, although it names nothing (`CompactCall.positional?`).

There is no third kind: what is read of a list are the named entries and these
arrays, in their order, each as the call that it is
(`CompactCall.named_or_positional`). And only a list without such arrays is read
as it is meant to be.
-/

namespace CallScope

open Json Decode

/-- The items of an array; other values have none. -/
def Json.Value.entries : Value → List Value
  | .array items => items
  | _ => []

section

/-! ## Lists of two kinds of entries -/

variable {α β : Type} {f g : α → Option β}

/-- Of two kinds that exclude each other, every entry is counted once. -/
theorem length_filterMap_or (h : ∀ a, f a = none ∨ g a = none) (entries : List α) :
    (entries.filterMap fun a => (f a).or (g a)).length
      = (entries.filterMap f).length + (entries.filterMap g).length := by
  induction entries with
  | nil => rfl
  | cons a rest ih =>
    rw [List.filterMap_cons, List.filterMap_cons, List.filterMap_cons]
    rcases h a with hf | hg
    · rw [hf, Option.none_or]
      cases g a with
      | none => exact ih
      | some b => exact congrArg (· + 1) ih
    · rw [hg, Option.or_none]
      cases f a with
      | none => exact ih
      | some b =>
        show _ + 1 = _ + 1 + _
        rw [ih, Nat.add_right_comm]

/-- The second kind adds nothing only if there are none of it. -/
theorem filterMap_or_eq_iff (h : ∀ a, f a = none ∨ g a = none) {entries : List α} :
    (entries.filterMap fun a => (f a).or (g a)) = entries.filterMap f
      ↔ ∀ a ∈ entries, g a = none := by
  constructor
  · intro heq
    have hlength := length_filterMap_or h entries
    rw [heq] at hlength
    exact List.filterMap_eq_nil_iff.mp (List.length_eq_zero_iff.mp (by omega))
  · intro hnone
    refine List.filterMap_congr fun a ha => ?_
    rw [hnone a ha, Option.or_none]

end

namespace CompactCall

/-! ## Named and positional entries -/

/-- Parameters as they are given: `null` stands for none. -/
def given : Option Value → Option Value
  | some .null => none
  | parameters => parameters

/-- **The call of a named entry**: of an object with a string `name`. -/
def named? : Value → Option CompactCall
  | .object members =>
    match members.lookup "name" with
    | some (.string name) => some ⟨name, given (members.lookup "parameters")⟩
    | _ => none
  | _ => none

/-- **The call of a positional entry**: of an array whose first item is a string
and which has at most one more. -/
def positional? : Value → Option CompactCall
  | .array [.string name] => some ⟨name, none⟩
  | .array [.string name, parameters] => some ⟨name, given (some parameters)⟩
  | _ => none

/-- The call of an entry of either kind. -/
def ofEntry? (entry : Value) : Option CompactCall := (named? entry).or (positional? entry)

/-- No entry is of both kinds. -/
theorem named?_eq_none_or_positional?_eq_none (entry : Value) :
    named? entry = none ∨ positional? entry = none := by
  cases entry with
  | object members => exact .inr rfl
  | _ => exact .inl rfl

/-! ## Reading an object -/

/-- Parameters of any kind can be read. -/
theorem option_any_given {v : Value} (hkeys : v.distinctKeys = true) :
    (option any).ofValue v = .ok (given (some v)) := by
  cases v with
  | null => rfl
  | _ => exact option_any_ofValue nofun hkeys

theorem field_name : record.Field "name" string (·.name) :=
  Record.field_of_slots [] [_] rfl rfl (fun _ _ => rfl)
    (List.forall_mem_singleton.mpr (Record.leaves_slot (by decide) fun _ _ => rfl))

/-- Nothing is in the way of reading an object with a string `name`. -/
theorem exists_kept_of_name {members : List (String × Value)}
    (hkeys : (Value.object members).distinctKeys = true) {name : String}
    (hname : members.lookup "name" = some (.string name)) :
    ∃ kept, record.fillMembers .settled .closed (Draft.ofMembers members) record.blank
      = .ok kept := by
  obtain ⟨hnodup, hvalues⟩ := Value.distinctKeys_object.mp hkeys
  refine Record.exists_fillMembers (fun slot _ => List.nodup_iff_count.mp hnodup slot.key) ?_
  simp only [record, List.forall_mem_cons]
  refine ⟨⟨_, _, _, field_name, fun v hv => ?_⟩, ⟨_, _, _, field_parameters, fun v hv => ?_⟩, nofun⟩
  · cases hname.symm.trans ((Value.lookup_eq_some_iff_mem hnodup).mpr hv)
    exact ⟨name, rfl⟩
  · exact ⟨_, option_any_given (hvalues _ hv)⟩

/-- **An object with a string `name` is read as the call that it is**, whatever
else there is in it. -/
theorem decode_of_name {members : List (String × Value)}
    (hkeys : (Value.object members).distinctKeys = true) {name : String}
    (hname : members.lookup "name" = some (.string name)) :
    decode.ofValue (.object members)
      = .ok ⟨name, given (members.lookup "parameters")⟩ := by
  obtain ⟨kept, hkept⟩ := exists_kept_of_name hkeys hname
  have hentry : kept.name = some name := field_name.entry_of_lookup hkept hname rfl
  have hparameters : kept.parameters.getD none = given (members.lookup "parameters") := by
    cases hlookup : members.lookup "parameters" with
    | none =>
      rw [field_parameters.entry_of_missing hkept hlookup]
      rfl
    | some v =>
      have hv : v.distinctKeys = true :=
        Value.distinctKeys_of_get? hkeys
          (show (Value.object members).get? "parameters" = some v from hlookup)
      rw [field_parameters.entry_of_lookup hkept hlookup (option_any_given hv)]
      rfl
  unfold decode
  rw [Record.decode_object, hkept]
  show (required "name" kept.name).map _ = _
  rw [hentry, ← hparameters]
  rfl

/-- **An object that is read as a call** has the name of the call. -/
theorem name_of_decode {members : List (String × Value)} {call : CompactCall}
    (h : decode.ofValue (.object members) = .ok call) :
    members.lookup "name" = some (.string call.name) := by
  obtain ⟨kept, hkept, hbuild⟩ := Record.exists_of_decode_object h
  obtain ⟨name, hrequired, rfl⟩ := Draft.exists_of_map_eq_ok hbuild
  rcases field_name.read hkept with ⟨-, hnone⟩ | ⟨v, s, hv, hs, hentry⟩
  · cases hnone.symm.trans (eq_some_of_required hrequired)
  · cases hentry.symm.trans (eq_some_of_required hrequired)
    rw [hv, string_ofValue_eq_ok_iff.mp hs]

/-- Of the objects, exactly the named entries are calls. -/
theorem toOption_decode_object {members : List (String × Value)}
    (hkeys : (Value.object members).distinctKeys = true) :
    (decode.ofValue (.object members)).toOption = named? (.object members) := by
  unfold named?
  dsimp only
  split
  · rename_i name hname
    rw [decode_of_name hkeys hname]
    rfl
  · rename_i hother
    cases hdecode : decode.ofValue (.object members) with
    | ok call => exact absurd (name_of_decode hdecode) (hother call.name)
    | error fault => rfl

/-! ## Reading an array -/

/-- Of the arrays, exactly the positional entries are calls. -/
theorem toOption_decode_array {items : List Value}
    (hkeys : (Value.array items).distinctKeys = true) :
    (decode.ofValue (.array items)).toOption = positional? (.array items) := by
  rw [Value.distinctKeys, Value.distinctKeysItems_iff] at hkeys
  cases items with
  | nil => rfl
  | cons first rest =>
    unfold decode
    rw [Record.decode_array, show record.slots = _ :: _ from rfl, Record.fillItems_cons]
    cases hfirst : string.ofValue first with
    | error fault =>
      have hother : ∀ name, first ≠ .string name := by
        rintro name rfl
        cases hfirst
      cases first with
      | string name => exact absurd rfl (hother name)
      | _ => rfl
    | ok name =>
      obtain rfl := string_ofValue_eq_ok_iff.mp hfirst
      cases rest with
      | nil => rfl
      | cons second rest =>
        rw [List.forall_mem_cons, List.forall_mem_cons] at hkeys
        show Except.toOption (Except.bind (record.fillItems _ _ _ _ (_ :: _) _ _) _) = _
        rw [Record.fillItems_cons, option_any_given hkeys.2.1]
        -- both fields are filled now, so that one more item is one too many
        cases rest <;> rfl

/-! ## Reading a list -/

/-- **An entry is a compact call** if it is of one of the two kinds. -/
theorem toOption_decode {entry : Value} (hkeys : entry.distinctKeys = true) :
    (decode.ofValue entry).toOption = ofEntry? entry := by
  cases entry with
  | object members => exact (toOption_decode_object hkeys).trans Option.or_none.symm
  | array items => exact toOption_decode_array hkeys
  | number n => cases n <;> rfl
  | _ => rfl

/-- The positional entries, written out. -/
theorem positional?_eq_none_iff {entry : Value} :
    positional? entry = none ↔ ∀ name, entry ≠ .array [.string name]
      ∧ ∀ parameters, entry ≠ .array [.string name, parameters] := by
  constructor
  · intro h name
    constructor
    · rintro rfl
      cases h
    · rintro parameters rfl
      cases h
  · intro h
    unfold positional?
    split
    · exact absurd rfl (h _).1
    · exact absurd rfl ((h _).2 _)
    · rfl

/-- The calls of a value are those of its entries. -/
theorem ofValue_eq {raw : Value} (hkeys : raw.distinctKeys = true) :
    ofValue raw = raw.entries.filterMap ofEntry? := by
  cases raw with
  | array entries =>
    rw [Value.distinctKeys, Value.distinctKeysItems_iff] at hkeys
    exact List.filterMap_congr fun entry hentry => toOption_decode (hkeys entry hentry)
  | _ => rfl

/-- The calls inside a text are those of the entries under `tool_calls`. -/
theorem embeddedCalls?_eq_some {content : String} {calls : List OpenAiCall}
    (h : embeddedCalls? content = some calls) :
    ∃ v found, Value.ofText content = .ok v ∧ v.get? "tool_calls" = some found
      ∧ calls = (found.entries.filterMap ofEntry?).map toOpenAi := by
  unfold embeddedCalls? at h
  split at h
  · rename_i v hv
    obtain ⟨found, hfound, rfl⟩ := Option.map_eq_some_iff.mp h
    have hkeys := Value.distinctKeys_of_get? (Value.distinctKeys_of_ofText hv) hfound
    exact ⟨v, found, hv, hfound, congrArg (List.map toOpenAi) (ofValue_eq hkeys)⟩
  · cases h

/-- **What is read as compact calls**, in the order of the list: the entries that
are objects with a string `name`, with their parameters, and besides them the
arrays of a string, alone or with one item behind it. So only the named entries
are read if and only if there is no such array. A value that is no list has no
calls, and what is found in a text are the calls of the value under `tool_calls`
and nothing else. -/
theorem named_or_positional {raw : Value} (hkeys : raw.distinctKeys = true) :
    ((∀ entries, raw ≠ .array entries) → ofValue raw = [])
    ∧ ofValue raw = raw.entries.filterMap ofEntry?
    ∧ (ofValue raw = raw.entries.filterMap named? ↔ ∀ entry ∈ raw.entries, ∀ name,
        entry ≠ .array [.string name]
          ∧ ∀ parameters, entry ≠ .array [.string name, parameters])
    ∧ ∀ content calls, embeddedCalls? content = some calls →
        ∃ v found, Value.ofText content = .ok v ∧ v.get? "tool_calls" = some found
          ∧ calls = (found.entries.filterMap ofEntry?).map toOpenAi := by
  refine ⟨fun hlist => ?_, ofValue_eq hkeys, ?_, fun content calls => embeddedCalls?_eq_some⟩
  · cases raw with
    | array entries => exact absurd rfl (hlist entries)
    | _ => rfl
  · rw [ofValue_eq hkeys]
    refine (filterMap_or_eq_iff named?_eq_none_or_positional?_eq_none).trans ?_
    simp only [positional?_eq_none_iff]

/-- Of a named entry with an unknown key, an entry whose name is a number, a
string and an array of a string, the first and the last are calls. -/
theorem named_or_positional_mixed :
    let one : Value := .number (.integer ⟨1, by decide, by decide⟩)
    let raw : Value := .array [
      .object [("parameters", .null), ("rank", one), ("name", .string "first")],
      .object [("name", one)],
      .string "search",
      .array [.string "stop"]]
    raw.distinctKeys = true
      ∧ ofValue raw = [⟨"first", none⟩, ⟨"stop", none⟩]
      ∧ raw.entries.filterMap named? = [⟨"first", none⟩]
      ∧ ofValue raw ≠ raw.entries.filterMap named? := by
  intro one raw
  have hkeys : raw.distinctKeys = true := by decide
  obtain ⟨-, hcalls, hnamed, -⟩ := named_or_positional hkeys
  refine ⟨hkeys, hcalls.trans rfl, rfl, fun heq => ?_⟩
  exact (hnamed.mp heq _ (List.mem_of_getElem? (show raw.entries[3]? = some _ from rfl)) _).1 rfl

/-- **An array of two strings is read as a call**, in hand as well as inside a
text, although it holds no object and no name. -/
theorem array_read_as_call :
    let raw : Value := .array [.array [.string "ls", .string "x"]]
    let text := (Value.object [("tool_calls", raw)]).spaced
    raw.entries.filterMap named? = []
      ∧ ofValue raw = [⟨"ls", some (.string "x")⟩]
      ∧ embeddedCalls? text = some [.ofFunction "ls" (Value.string "x").spaced] := by
  intro raw text
  have hread : Value.ofText text = .ok (.object [("tool_calls", raw)]) :=
    Value.Fits.ofText_write Layout.readable_spaced ⟨by decide, by decide, by decide⟩
  refine ⟨rfl, rfl, ?_⟩
  unfold embeddedCalls?
  rw [hread]
  rfl

end CompactCall
end CallScope
