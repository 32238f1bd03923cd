import CallScope.Proofs.BlindToDoubles
import CallScope.Proofs.LoadingPaths
import CallScope.Proofs.ReadingBack

/-!
# Configurations given in part

A configuration file need not hold a whole configuration. Sections may be left out,
and fields of those that are there, and what is left out has its default; keys that
nobody knows are passed over, wherever they stand and whatever is under them.

`Json.Value.LeftOf` says which members may be left of those that were written. What
a record keeps of them is what it keeps of all, field by field, without the fields
that are gone (`Decode.Record.Whole.decode_left`). A record within a record is only
another field, so this serves both levels of a configuration, whose text is loaded
as the configuration without what is gone (`Config.load_left`). A double under an
unknown key may not read back, which a configuration does not notice
(`Config.blind_decode`).
-/

namespace CallScope

open Json Decode

/-! ## Members that are left -/

namespace Json.Value

/-- The members of an object. -/
def members : Value → List (String × Value)
  | .object members => members
  | _ => []

/-- **Members that are left of others**: those under keys that are gone are taken out,
and beside the rest stand any under keys that are not among them. The order is free. -/
def LeftOf (gone : String → Bool) (all left : List (String × Value)) : Prop :=
  (left.filter fun m => m.1 ∈ all.map Prod.fst).Perm (all.filter fun m => !gone m.1)

/-- The member under a key that is kept by a filter of keys. -/
theorem lookup_filter (p : String → Bool) (members : List (String × Value)) (key : String) :
    (members.filter fun m => p m.1).lookup key = if p key then members.lookup key else none := by
  induction members with
  | nil => simp
  | cons member rest ih =>
    obtain ⟨k, v⟩ := member
    by_cases hk : key = k
    · subst hk
      cases hp : p key <;> simp [hp, ih]
    · have hne : (key == k) = false := beq_eq_false_iff_ne.mpr hk
      cases hp : p k <;> simp [hp, List.lookup_cons, hne, ih]

/-- Members in another order are found under the same keys. -/
theorem lookup_perm {members others : List (String × Value)} (h : members.Perm others)
    (hkeys : (others.map Prod.fst).Nodup) (key : String) :
    members.lookup key = others.lookup key := by
  have hkeys' : (members.map Prod.fst).Nodup := (h.map Prod.fst).nodup_iff.mpr hkeys
  ext v
  rw [lookup_eq_some_iff_mem hkeys', lookup_eq_some_iff_mem hkeys,
    h.mem_iff]

namespace LeftOf

variable {gone : String → Bool} {all left : List (String × Value)}

/-- All members are left of themselves, if nothing is gone. -/
theorem self (all : List (String × Value)) : LeftOf (fun _ => false) all all := by
  have hknown : (all.filter fun m => m.1 ∈ all.map Prod.fst) = all :=
    List.filter_eq_self.mpr fun m hm => decide_eq_true (List.mem_map_of_mem hm)
  have hkept : (all.filter fun _ => !false) = all := List.filter_eq_self.mpr fun _ _ => rfl
  rw [LeftOf, hknown, hkept]

/-- **Under a known key stands what stood there**, unless it is gone. -/
theorem lookup (h : LeftOf gone all left) (hkeys : (all.map Prod.fst).Nodup) {key : String}
    (hkey : key ∈ all.map Prod.fst) :
    left.lookup key = if gone key then none else all.lookup key := by
  have hkept : ((all.filter fun m => !gone m.1).map Prod.fst).Nodup :=
    hkeys.sublist (List.filter_sublist.map Prod.fst)
  calc left.lookup key
      = (left.filter fun m => m.1 ∈ all.map Prod.fst).lookup key := by
        rw [lookup_filter fun k => k ∈ all.map Prod.fst, if_pos (decide_eq_true hkey)]
    _ = (all.filter fun m => !gone m.1).lookup key := lookup_perm h hkept key
    _ = if gone key then none else all.lookup key := by
        rw [lookup_filter fun k => !gone k]
        cases gone key <;> rfl

/-- No known key is repeated. -/
theorem count_le_one (h : LeftOf gone all left) (hkeys : (all.map Prod.fst).Nodup) {key : String}
    (hkey : key ∈ all.map Prod.fst) : (left.map Prod.fst).count key ≤ 1 := by
  have hknown : (left.map Prod.fst).count key
      = ((left.filter fun m => m.1 ∈ all.map Prod.fst).map Prod.fst).count key := by
    rw [← List.count_filter (p := fun k => decide (k ∈ all.map Prod.fst)) (decide_eq_true hkey),
      List.filter_map]
    rfl
  calc (left.map Prod.fst).count key
      = ((all.filter fun m => !gone m.1).map Prod.fst).count key :=
        hknown.trans ((h.map Prod.fst).count_eq key)
    _ ≤ (all.map Prod.fst).count key := (List.filter_sublist.map Prod.fst).count_le key
    _ ≤ 1 := List.nodup_iff_count.mp hkeys key

/-- What is left under a known key was there. -/
theorem mem (h : LeftOf gone all left) {key : String} (hkey : key ∈ all.map Prod.fst) {v : Value}
    (hv : (key, v) ∈ left) : (key, v) ∈ all :=
  (List.mem_filter.mp (h.mem_iff.mp (List.mem_filter.mpr ⟨hv, decide_eq_true hkey⟩))).1

end LeftOf
end Json.Value

/-! ## Records of which members are left -/

namespace Decode.Record

variable {σ α β : Type} {r : Record σ α} {mode inner : Mode}
  {all left : List (String × Value)} {whole : σ} {gone : String → Bool}

/-- **All members of a record**, which are read, and what is kept of them. -/
structure Whole (r : Record σ α) (mode : Mode) (all : List (String × Value)) (whole : σ) :
    Prop where
  fields : ∀ slot ∈ r.slots, ∃ (β : Type) (decode : Decoder β) (entry : σ → Option β),
    r.Field slot.key decode entry
  keys : (all.map Prod.fst).Nodup
  known : ∀ slot ∈ r.slots, slot.key ∈ all.map Prod.fst
  read : r.fillMembers mode .closed (Draft.ofMembers all) r.blank = .ok whole

/-- Whatever is left of all members is read to its end. -/
theorem Whole.exists_fillMembers (h : r.Whole mode all whole) (hleft : Value.LeftOf gone all left) :
    ∃ kept, r.fillMembers mode .closed (Draft.ofMembers left) r.blank = .ok kept := by
  refine Record.exists_fillMembers
    (fun slot hslot => hleft.count_le_one h.keys (h.known slot hslot)) fun slot hslot => ?_
  obtain ⟨β, decode, entry, field⟩ := h.fields slot hslot
  refine ⟨β, decode, entry, field, fun v hv => ?_⟩
  have hlookup : all.lookup slot.key = some v :=
    (Value.lookup_eq_some_iff_mem h.keys).mpr (hleft.mem (h.known slot hslot) hv)
  rcases field.read h.read with ⟨hnone, -⟩ | ⟨w, b, hw, hb, -⟩
  · cases hlookup.symm.trans hnone
  · cases hlookup.symm.trans hw
    exact ⟨b, hb⟩

/-- What is kept of a field is what is kept of it from all members, unless it is gone. -/
theorem Whole.entry_eq (h : r.Whole mode all whole) (hleft : Value.LeftOf gone all left) {kept : σ}
    (hkept : r.fillMembers mode .closed (Draft.ofMembers left) r.blank = .ok kept) {key : String}
    {decode : Decoder β} {entry : σ → Option β} (field : r.Field key decode entry) :
    entry kept = if gone key then none else entry whole := by
  obtain ⟨slot, hslot, hkey⟩ := List.find?_isSome.mp field.known
  obtain rfl : slot.key = key := by simpa using hkey
  have hlookup := hleft.lookup h.keys (h.known slot hslot)
  cases hgone : gone slot.key with
  | true =>
    rw [hgone, if_pos rfl] at hlookup
    exact field.entry_of_missing hkept hlookup
  | false =>
    rw [hgone, if_neg Bool.false_ne_true] at hlookup
    rw [if_neg Bool.false_ne_true]
    rcases field.read h.read with ⟨hnone, hentry⟩ | ⟨v, b, hv, hb, hentry⟩
    · rw [field.entry_of_missing hkept (hlookup.trans hnone), hentry]
    · rw [field.entry_of_lookup hkept (hlookup.trans hv) hb, hentry]

/-- **A record is built from what is left of its members**: the fields that are gone are
empty, and the others are as in the whole. -/
theorem Whole.decode_left (h : r.Whole inner all whole) (henter : mode.enter = .ok inner)
    (hleft : Value.LeftOf gone all left) :
    ∃ kept, r.decode mode (.ofValue (.object left)) = r.build kept
      ∧ ∀ {β : Type} {key : String} {decode : Decoder β} {entry : σ → Option β},
        r.Field key decode entry → entry kept = if gone key then none else entry whole := by
  obtain ⟨kept, hkept⟩ := h.exists_fillMembers hleft
  refine ⟨kept, ?_, fun field => h.entry_eq hleft hkept field⟩
  rw [r.decode_object_of_enter henter, hkept]
  rfl

end Decode.Record

/-! ## Fields with defaults -/

/-- What is given of a field, with the default where it is gone. -/
theorem getD_unless {α : Type} (gone : Bool) (a base : α) :
    (if gone then none else some a).getD base = if gone then base else a := by
  cases gone <;> rfl

namespace Limits

/-- Limits of which some fields have been replaced by their defaults. -/
def without (gone : String → Bool) (l : Limits) : Limits :=
  let base : Limits := {}
  { inputChars := if gone "input_chars" then base.inputChars else l.inputChars
    outputChars := if gone "output_chars" then base.outputChars else l.outputChars
    toolArgumentChars :=
      if gone "tool_argument_chars" then base.toolArgumentChars else l.toolArgumentChars
    indexedToolCalls :=
      if gone "indexed_tool_calls" then base.indexedToolCalls else l.indexedToolCalls }

theorem record_fields :
    record.Field "input_chars" (word "usize") (·.inputChars)
      ∧ record.Field "output_chars" (word "usize") (·.outputChars)
      ∧ record.Field "tool_argument_chars" (word "usize") (·.toolArgumentChars)
      ∧ record.Field "indexed_tool_calls" (word "usize") (·.indexedToolCalls) := by
  refine ⟨Record.field_of_slots [] [_, _, _] rfl rfl (fun _ _ => rfl) ?_,
    Record.field_of_slots [_] [_, _] rfl rfl (fun _ _ => rfl) ?_,
    Record.field_of_slots [_, _] [_] rfl rfl (fun _ _ => rfl) ?_,
    Record.field_of_slots [_, _, _] [] rfl rfl (fun _ _ => rfl) ?_⟩
  all_goals
    simp only [List.nil_append, List.append_nil, List.cons_append, List.forall_mem_cons]
    exact ⟨Record.leaves_slot (by decide) fun _ _ => rfl,
      Record.leaves_slot (by decide) fun _ _ => rfl,
      Record.leaves_slot (by decide) fun _ _ => rfl, nofun⟩

/-- Limits are read from all their members. -/
theorem whole (l : Limits) (mode : Mode) :
    record.Whole mode l.toValue.members ⟨some l.inputChars, some l.outputChars,
      some l.toolArgumentChars, some l.indexedToolCalls⟩ where
  fields := by
    obtain ⟨hinput, houtput, harguments, hcalls⟩ := record_fields
    simp only [record, List.forall_mem_cons]
    exact ⟨⟨_, _, _, hinput⟩, ⟨_, _, _, houtput⟩, ⟨_, _, _, harguments⟩, ⟨_, _, _, hcalls⟩, nofun⟩
  keys := by simp [toValue, Value.members]
  known := by simp [record, slot, toValue, Value.members]
  read := by
    have hword : ∀ n, word "usize" mode (.ofValue (.ofUInt64 n)) = .ok n := word_ofUInt64 "usize"
    rw [toValue, Value.members, Record.fillMembers_cons rfl rfl (hword l.inputChars),
      Record.fillMembers_cons rfl rfl (hword l.outputChars),
      Record.fillMembers_cons rfl rfl (hword l.toolArgumentChars),
      Record.fillMembers_cons rfl rfl (hword l.indexedToolCalls)]
    rfl

/-- **Limits are read without the fields that are gone.** -/
theorem decode_left (l : Limits) {mode inner : Mode} (henter : mode.enter = .ok inner)
    {gone : String → Bool} {left : List (String × Value)}
    (hleft : Value.LeftOf gone l.toValue.members left) :
    decode mode (.ofValue (.object left)) = .ok (l.without gone) := by
  obtain ⟨kept, hdecode, hentry⟩ := (l.whole inner).decode_left henter hleft
  obtain ⟨hinput, houtput, harguments, hcalls⟩ := record_fields
  rw [show decode mode _ = record.build kept from hdecode]
  show Except.ok kept.complete = _
  rw [Partial.complete, hentry hinput, hentry houtput, hentry harguments, hentry hcalls]
  simp only [getD_unless]
  rfl

end Limits

namespace MetricNames

/-- Names of which some have been replaced by their defaults. -/
def without (gone : String → Bool) (m : MetricNames) : MetricNames :=
  let base : MetricNames := {}
  { requests := if gone "requests" then base.requests else m.requests
    tokens := if gone "tokens" then base.tokens else m.tokens
    duration := if gone "duration" then base.duration else m.duration }

theorem record_fields :
    record.Field "requests" string (·.requests) ∧ record.Field "tokens" string (·.tokens)
      ∧ record.Field "duration" string (·.duration) := by
  refine ⟨Record.field_of_slots [] [_, _] rfl rfl (fun _ _ => rfl) ?_,
    Record.field_of_slots [_] [_] rfl rfl (fun _ _ => rfl) ?_,
    Record.field_of_slots [_, _] [] rfl rfl (fun _ _ => rfl) ?_⟩
  all_goals
    simp only [List.nil_append, List.append_nil, List.cons_append, List.forall_mem_cons]
    exact ⟨Record.leaves_slot (by decide) fun _ _ => rfl,
      Record.leaves_slot (by decide) fun _ _ => rfl, nofun⟩

/-- The names are read from all their members. -/
theorem whole (m : MetricNames) (mode : Mode) :
    record.Whole mode m.toValue.members ⟨some m.requests, some m.tokens, some m.duration⟩ where
  fields := by
    obtain ⟨hrequests, htokens, hduration⟩ := record_fields
    simp only [record, List.forall_mem_cons]
    exact ⟨⟨_, _, _, hrequests⟩, ⟨_, _, _, htokens⟩, ⟨_, _, _, hduration⟩, nofun⟩
  keys := by simp [toValue, Value.members]
  known := by simp [record, slot, toValue, Value.members]
  read := rfl

/-- **The names are read without those that are gone.** -/
theorem decode_left (m : MetricNames) {mode inner : Mode} (henter : mode.enter = .ok inner)
    {gone : String → Bool} {left : List (String × Value)}
    (hleft : Value.LeftOf gone m.toValue.members left) :
    decode mode (.ofValue (.object left)) = .ok (m.without gone) := by
  obtain ⟨kept, hdecode, hentry⟩ := (m.whole inner).decode_left henter hleft
  obtain ⟨hrequests, htokens, hduration⟩ := record_fields
  rw [show decode mode _ = record.build kept from hdecode]
  show Except.ok kept.complete = _
  rw [Partial.complete, hentry hrequests, hentry htokens, hentry hduration]
  simp only [getD_unless]
  rfl

end MetricNames

namespace Logging

/-- Logging of which some fields have been replaced by their defaults. -/
def without (gone : String → Bool) (l : Logging) : Logging :=
  let base : Logging := {}
  { filter := if gone "filter" then base.filter else l.filter
    ansi := if gone "ansi" then base.ansi else l.ansi }

theorem record_fields :
    record.Field "filter" string (·.filter) ∧ record.Field "ansi" bool (·.ansi) := by
  refine ⟨Record.field_of_slots [] [_] rfl rfl (fun _ _ => rfl) ?_,
    Record.field_of_slots [_] [] rfl rfl (fun _ _ => rfl) ?_⟩
  all_goals exact List.forall_mem_singleton.mpr (Record.leaves_slot (by decide) fun _ _ => rfl)

/-- Logging is read from all its members. -/
theorem whole (l : Logging) (mode : Mode) :
    record.Whole mode l.toValue.members ⟨some l.filter, some l.ansi⟩ where
  fields := by
    obtain ⟨hfilter, hansi⟩ := record_fields
    simp only [record, List.forall_mem_cons]
    exact ⟨⟨_, _, _, hfilter⟩, ⟨_, _, _, hansi⟩, nofun⟩
  keys := by simp [toValue, Value.members]
  known := by simp [record, slot, toValue, Value.members]
  read := rfl

/-- **Logging is read without the fields that are gone.** -/
theorem decode_left (l : Logging) {mode inner : Mode} (henter : mode.enter = .ok inner)
    {gone : String → Bool} {left : List (String × Value)}
    (hleft : Value.LeftOf gone l.toValue.members left) :
    decode mode (.ofValue (.object left)) = .ok (l.without gone) := by
  obtain ⟨kept, hdecode, hentry⟩ := (l.whole inner).decode_left henter hleft
  obtain ⟨hfilter, hansi⟩ := record_fields
  rw [show decode mode _ = record.build kept from hdecode]
  show Except.ok kept.complete = _
  rw [Partial.complete, hentry hfilter, hentry hansi]
  simp only [getD_unless]
  rfl

end Logging

/-! ## Sections with defaults -/

namespace Config

/-- **A configuration of which some fields have been replaced by their defaults**, and
with a section all fields in it. -/
def without (goneSection : String → Bool) (goneField : String → String → Bool) (c : Config) :
    Config where
  limits := c.limits.without fun field => goneSection "limits" || goneField "limits" field
  metrics := c.metrics.without fun field => goneSection "metrics" || goneField "metrics" field
  logging := c.logging.without fun field => goneSection "logging" || goneField "logging" field

theorem record_fields :
    record.Field "limits" Limits.decode (·.limits)
      ∧ record.Field "metrics" MetricNames.decode (·.metrics)
      ∧ record.Field "logging" Logging.decode (·.logging) := by
  refine ⟨Record.field_of_slots [] [_, _] rfl rfl (fun _ _ => rfl) ?_,
    Record.field_of_slots [_] [_] rfl rfl (fun _ _ => rfl) ?_,
    Record.field_of_slots [_, _] [] rfl rfl (fun _ _ => rfl) ?_⟩
  all_goals
    simp only [List.nil_append, List.append_nil, List.cons_append, List.forall_mem_cons]
    exact ⟨Record.leaves_slot (by decide) fun _ _ => rfl,
      Record.leaves_slot (by decide) fun _ _ => rfl, nofun⟩

/-- The sections of a configuration as members of its object. -/
def sections (limits metrics logging : List (String × Value)) : List (String × Value) :=
  [("limits", .object limits), ("metrics", .object metrics), ("logging", .object logging)]

/-- **A value in which a part of a configuration is left**: the sections that are not gone,
with their fields that are not gone. -/
def LeftIn (goneSection : String → Bool) (goneField : String → String → Bool) (c : Config)
    (v : Value) : Prop :=
  ∃ limits metrics logging members, v = .object members
    ∧ Value.LeftOf goneSection (sections limits metrics logging) members
    ∧ Value.LeftOf (goneField "limits") c.limits.toValue.members limits
    ∧ Value.LeftOf (goneField "metrics") c.metrics.toValue.members metrics
    ∧ Value.LeftOf (goneField "logging") c.logging.toValue.members logging

/-- All of a configuration is left in its own JSON. -/
theorem leftIn_toValue (c : Config) :
    c.LeftIn (fun _ => false) (fun _ _ => false) c.toValue :=
  ⟨_, _, _, _, rfl, .self _, .self _, .self _, .self _⟩

/-- Where nothing is gone, nothing is replaced. -/
theorem without_nothing (c : Config) :
    c.without (fun _ => false) (fun _ _ => false) = c := rfl

/-- A configuration is read from its sections, of which fields may be gone. -/
theorem whole (c : Config) {mode inner : Mode} (henter : mode.enter = .ok inner)
    {goneField : String → String → Bool} {limits metrics logging : List (String × Value)}
    (hlimits : Value.LeftOf (goneField "limits") c.limits.toValue.members limits)
    (hmetrics : Value.LeftOf (goneField "metrics") c.metrics.toValue.members metrics)
    (hlogging : Value.LeftOf (goneField "logging") c.logging.toValue.members logging) :
    record.Whole mode (sections limits metrics logging)
      ⟨some (c.limits.without (goneField "limits")), some (c.metrics.without (goneField "metrics")),
        some (c.logging.without (goneField "logging"))⟩ where
  fields := by
    obtain ⟨hlimits, hmetrics, hlogging⟩ := record_fields
    simp only [record, List.forall_mem_cons]
    exact ⟨⟨_, _, _, hlimits⟩, ⟨_, _, _, hmetrics⟩, ⟨_, _, _, hlogging⟩, nofun⟩
  keys := by simp [sections]
  known := by simp [record, slot, sections]
  read := by
    rw [sections, Record.fillMembers_cons rfl rfl (c.limits.decode_left henter hlimits),
      Record.fillMembers_cons rfl rfl (c.metrics.decode_left henter hmetrics),
      Record.fillMembers_cons rfl rfl (c.logging.decode_left henter hlogging)]
    rfl

/-- Of a section that is gone, every field is. -/
theorem unless_section {α : Type} (base : α) (without : (String → Bool) → α)
    (hbase : without (fun _ => true) = base) (gone : Bool) (goneField : String → Bool) :
    (if gone then base else without goneField) = without fun field => gone || goneField field := by
  cases gone with
  | true => exact hbase.symm
  | false => rfl

/-- **A configuration is read without what is gone**, be it a section or a field of one. -/
theorem decode_left (c : Config) {mode inner innermost : Mode} (henter : mode.enter = .ok inner)
    (henter' : inner.enter = .ok innermost) {goneSection : String → Bool}
    {goneField : String → String → Bool} {v : Value} (hleft : c.LeftIn goneSection goneField v) :
    decode mode (.ofValue v) = .ok (c.without goneSection goneField) := by
  obtain ⟨limits, metrics, logging, members, rfl, hsections, hlimits, hmetrics, hlogging⟩ := hleft
  obtain ⟨kept, hdecode, hentry⟩ :=
    (c.whole henter' hlimits hmetrics hlogging).decode_left henter hsections
  obtain ⟨hfieldLimits, hfieldMetrics, hfieldLogging⟩ := record_fields
  rw [show decode mode _ = record.build kept from hdecode]
  show Except.ok (Config.mk (kept.limits.getD {}) (kept.metrics.getD {}) (kept.logging.getD {})) = _
  rw [hentry hfieldLimits, hentry hfieldMetrics, hentry hfieldLogging]
  rw [getD_unless, getD_unless, getD_unless, unless_section {} c.limits.without rfl,
    unless_section {} c.metrics.without rfl, unless_section {} c.logging.without rfl]
  rfl

/-! ## Loading what is left -/

/-- What a value's text is read as, on one line or on many. -/
theorem draft_ofText {v : Value} {text : String} (h : text ∈ [v.compact, v.indented]) :
    Draft.ofText text = (v.reread, false) := by
  rcases List.mem_pair.mp h with rfl | rfl
  · exact Draft.ofText_write Layout.readable_compact v
  · have hread : Draft.ofText (String.ofList (v.writeIndented 0 ++ [])) = (v.reread, false) :=
      Draft.ofText_of_isTextOf (Scan.isTextOf_indented v 0) nofun
    rwa [List.append_nil] at hread

/-- **A configuration has no use for doubles**, whatever unknown keys may hold. -/
theorem blind_decode : decode.Blind := by
  have hlimits : Limits.decode.Blind := Record.blind_decode (by
    simp only [Limits.record, List.forall_mem_cons]
    exact ⟨(blind_word _).slot, (blind_word _).slot, (blind_word _).slot, (blind_word _).slot,
      nofun⟩)
  have hmetrics : MetricNames.decode.Blind := Record.blind_decode (by
    simp only [MetricNames.record, List.forall_mem_cons]
    exact ⟨blind_string.slot, blind_string.slot, blind_string.slot, nofun⟩)
  have hlogging : Logging.decode.Blind := Record.blind_decode (by
    simp only [Logging.record, List.forall_mem_cons]
    exact ⟨blind_string.slot, blind_bool.slot, nofun⟩)
  refine Record.blind_decode ?_
  simp only [record, List.forall_mem_cons]
  exact ⟨hlimits.slot, hmetrics.slot, hlogging.slot, nofun⟩

theorem ofPath_ne_toml {path : String} (h : ¬HasExtension path "toml") :
    Format.ofPath path ≠ .toml := by
  rw [hasExtension_iff] at h
  unfold Format.ofPath
  split
  · rename_i ext hext
    split
    · exact Format.noConfusion
    · rw [if_neg fun heq => h (hext.trans (congrArg some heq))]
      exact Format.noConfusion
  · exact Format.noConfusion

/-- A text that is read as JSON is read so unless it is to be TOML. -/
theorem ofText_of_ofJson {format : Format} (hformat : format ≠ .toml) {text : String} {c : Config}
    (h : ofJson text = .ok c) : ofText format text = .ok c := by
  cases format with
  | json => exact h
  | toml => exact absurd rfl hformat
  | either => rw [ofText, h]

/-- **A configuration is loaded from its JSON, and from any part of that.** -/
theorem load_left (c : Config) {path : String} (hpath : ¬HasExtension path "toml") :
    ((∀ name ∈ c.names, Text.trim name.toList ≠ []) →
        ∀ text ∈ [c.toValue.compact, c.toValue.indented],
          load path (some (Text.Utf8.bytes text)) = .ok c)
      ∧ ∀ goneSection goneField v, c.LeftIn goneSection goneField v →
          (∀ name ∈ (c.without goneSection goneField).names, Text.trim name.toList ≠ []) →
            ∀ text ∈ [v.compact, v.indented],
              load path (some (Text.Utf8.bytes text)) = .ok (c.without goneSection goneField) := by
  have hload : ∀ goneSection goneField v, c.LeftIn goneSection goneField v →
      (∀ name ∈ (c.without goneSection goneField).names, Text.trim name.toList ≠ []) →
        ∀ text ∈ [v.compact, v.indented],
          load path (some (Text.Utf8.bytes text)) = .ok (c.without goneSection goneField) := by
    intro goneSection goneField v hleft hnamed text htext
    have hdecode : decode (.streaming nestingLimit) v.reread
        = .ok (c.without goneSection goneField) := blind_decode (c.decode_left rfl rfl hleft)
    have hread : decode.ofText text = .ok (c.without goneSection goneField) := by
      unfold Decoder.ofText
      rw [draft_ofText htext]
      dsimp only
      rw [hdecode]
      rfl
    have hjson : ofJson text = .ok (c.without goneSection goneField) := by rw [ofJson, hread]
    rw [load_bytes, ofText_of_ofJson (ofPath_ne_toml hpath) hjson]
    exact check_of_named hnamed
  have hwhole := hload _ _ _ c.leftIn_toValue
  rw [without_nothing] at hwhole
  exact ⟨hwhole, hload⟩

/-- A configuration whose JSON has lost its last section and a field of each other one, in
another order and among keys that nobody knows. -/
theorem load_left_unordered :
    let c : Config := {
      limits := { inputChars := 18446744073709551615, outputChars := 0 }
      metrics := { requests := "grüße", tokens := "t" }
      logging := { filter := "debug" } }
    let limits : List (String × Value) := [("input_chars", .ofUInt64 18446744073709551615),
      ("tool_argument_chars", .ofUInt64 500), ("indexed_tool_calls", .ofUInt64 5)]
    let metrics : List (String × Value) := [("duration", .string "llm.request.duration"),
      ("unit", .null), ("requests", .string "grüße")]
    let v : Value := .object [("metrics", .object metrics),
      ("unit", .array [.object [("limits", .null)]]), ("limits", .object limits), ("unit", .null)]
    c.LeftIn (· == "logging") (fun _ field => field == "output_chars" || field == "tokens") v
      ∧ load "llm" (some (Text.Utf8.bytes v.indented)) = .ok {
        limits := { inputChars := 18446744073709551615 }, metrics := { requests := "grüße" } } := by
  intro c limits metrics v
  have hpath : ¬HasExtension "llm" "toml" := by
    rw [hasExtension_iff]
    decide
  have hleft : c.LeftIn (· == "logging")
      (fun _ field => field == "output_chars" || field == "tokens") v := by
    refine ⟨limits, metrics, c.logging.toValue.members, _, rfl, ?_, ?_, ?_, ?_⟩
    · exact .swap _ _ _
    · exact .refl _
    · exact .swap _ _ _
    · exact .refl _
  have hnamed : ∀ name ∈ (c.without (· == "logging")
      fun _ field => field == "output_chars" || field == "tokens").names,
        Text.trim name.toList ≠ [] := by decide
  exact ⟨hleft, (c.load_left hpath).2 _ _ v hleft hnamed _ (by simp)⟩

end Config
end CallScope
