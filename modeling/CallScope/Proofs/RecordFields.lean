import CallScope.Proofs.InHand

/-!
# Reading records

The members of an object come in any order, with unknown keys between them,
and what has been read of one field is kept while the others are read. A field
is what one decoder makes of the member under its key, wherever that stands and
whatever else there is (`Record.Field.read`); where the members are known, they
are read one after the other (`Record.fillMembers_cons`). Whatever is kept
of a field was read by its decoder, in whichever form the record is written
(`Record.Field.exists_kept`). And an object is read to its end if every field
in it can be read, since nothing else in an object is in the way
(`Record.exists_fillMembers`).
-/

namespace CallScope

open Json

namespace Json.Value

/-! ## Members under their keys -/

/-- Among members that repeat no key, each is found under its own. -/
theorem lookup_eq_some_iff_mem {members : List (String × Value)}
    (hkeys : (members.map Prod.fst).Nodup) {key : String} {v : Value} :
    members.lookup key = some v ↔ (key, v) ∈ members := by
  induction members with
  | nil => simp
  | cons member rest ih =>
    obtain ⟨k, w⟩ := member
    rw [List.map_cons, List.nodup_cons] at hkeys
    rw [List.lookup_cons, List.mem_cons, Prod.mk.injEq]
    by_cases hk : key = k
    · subst hk
      have hlater : (key, v) ∉ rest := fun hmem =>
        hkeys.1 (List.mem_map.mpr ⟨_, hmem, rfl⟩)
      simp [hlater, eq_comm]
    · simp [beq_eq_false_iff_ne.mpr hk, hk, ih hkeys.2]

/-- Inside a value that repeats no key, the value of a member repeats none. -/
theorem distinctKeys_of_get? {v w : Value} {key : String} (hkeys : v.distinctKeys = true)
    (hget : v.get? key = some w) : w.distinctKeys = true := by
  cases v with
  | object members =>
    obtain ⟨hnodup, hvalues⟩ := Value.distinctKeys_object.mp hkeys
    exact hvalues _ ((lookup_eq_some_iff_mem hnodup).mp hget)
  | _ => cases hget

end Json.Value

namespace Json.Draft

/-! ## Inside a draft -/

/-- **The drafts inside a container.** -/
def children : Draft → List Draft
  | .array items _ => items
  | .object members _ => members.map Prod.snd
  | _ => []

/-- Inside a value that repeats no key there are values that repeat none. -/
theorem exists_of_mem_children {v : Value} (hkeys : v.distinctKeys = true) {child : Draft}
    (h : child ∈ (ofValue v).children) :
    ∃ w : Value, w.distinctKeys = true ∧ child = ofValue w := by
  cases v with
  | array items =>
    rw [Value.distinctKeys, Value.distinctKeysItems_iff] at hkeys
    change child ∈ ofItems items at h
    induction items with
    | nil => cases h
    | cons item rest ih =>
      rw [List.forall_mem_cons] at hkeys
      rcases List.mem_cons.mp h with rfl | h
      · exact ⟨item, hkeys.1, rfl⟩
      · exact ih hkeys.2 h
  | object members =>
    have hvalues := (Value.distinctKeys_object.mp hkeys).2
    clear hkeys
    change child ∈ (ofMembers members).map Prod.snd at h
    induction members with
    | nil => cases h
    | cons member rest ih =>
      rw [List.forall_mem_cons] at hvalues
      rcases List.mem_cons.mp h with rfl | h
      · exact ⟨member.2, hvalues.1, rfl⟩
      · exact ih hvalues.2 h
  | _ => cases h

/-- The draft of the member under a key. -/
theorem lookup_ofMembers (members : List (String × Value)) (key : String) :
    (ofMembers members).lookup (some key) = (members.lookup key).map ofValue := by
  induction members with
  | nil => rfl
  | cons member rest ih =>
    obtain ⟨k, v⟩ := member
    have hkey : (some key == some k) = (key == k) := rfl
    rw [ofMembers, List.lookup_cons, List.lookup_cons, ih, hkey]
    cases key == k <;> rfl

/-- A value in hand can be passed over. -/
theorem skip_ofValue (v : Value) : (ofValue v).skip = .ok () := by
  induction v using Value.containers with
  | null | bool | number | string => rfl
  | array items ih =>
    show skipItems (ofItems items) .closed = .ok ()
    induction items with
    | nil => rfl
    | cons item rest ihrest =>
      rw [List.forall_mem_cons] at ih
      rw [ofItems, skipItems, ih.1]
      exact ihrest ih.2
  | object members ih =>
    show skipMembers (ofMembers members) .closed = .ok ()
    induction members with
    | nil => rfl
    | cons member rest ihrest =>
      rw [List.forall_mem_cons] at ih
      rw [ofMembers, skipMembers, ih.1]
      exact ihrest ih.2

end Json.Draft

namespace Decode

/-! ## Fields -/

/-- A slot is filled with what its decoder reads. -/
theorem exists_of_fill_slot {σ β : Type} {key : String} {optional : Bool} {decode : Decoder β}
    {entry : σ → Option β} {set : β → σ → σ} {mode : Mode} {d : Draft} {kept kept' : σ}
    (h : (slot key optional decode entry set).fill mode d kept = .ok kept') :
    ∃ b, decode mode d = .ok b ∧ set b kept = kept' := Draft.exists_of_map_eq_ok h

/-- A field that has to be there is there. -/
theorem eq_some_of_required {α : Type} {key : String} {entry : Option α} {a : α}
    (h : required key entry = .ok a) : entry = some a := by
  cases entry with
  | none => cases h
  | some b =>
    cases h
    rfl

/-- A field that may be left out and may be `null` has a value if it was given
one. -/
theorem eq_some_some_of_getD {α : Type} {entry : Option (Option α)} {a : α}
    (h : entry.getD none = some a) : entry = some (some a) := by
  cases entry with
  | none => cases h
  | some b => exact congrArg some h

namespace Record

variable {σ α β : Type}

/-- **A field of a record**: the slot under a key keeps what a decoder reads,
and the slots under other keys leave that alone. -/
structure Field (r : Record σ α) (key : String) (decode : Decoder β) (entry : σ → Option β) :
    Prop where
  known : (r.slots.find? fun slot => slot.key == key).isSome = true
  blank : entry r.blank = none
  filled : ∀ slot ∈ r.slots, slot.key = key → ∀ kept, slot.filled kept = (entry kept).isSome
  fill : ∀ slot ∈ r.slots, slot.key = key → ∀ {mode : Mode} {d : Draft} {kept kept' : σ},
    slot.fill mode d kept = .ok kept' → ∃ b, decode mode d = .ok b ∧ entry kept' = some b
  reads : ∀ slot ∈ r.slots, slot.key = key → ∀ {mode : Mode} {d : Draft} {b : β},
    decode mode d = .ok b → ∀ kept, ∃ kept', slot.fill mode d kept = .ok kept'
  others : ∀ slot ∈ r.slots, slot.key ≠ key → ∀ {mode : Mode} {d : Draft} {kept kept' : σ},
    slot.fill mode d kept = .ok kept' → entry kept' = entry kept

/-- A slot under another key leaves an entry as it is. -/
def Leaves (s : Slot σ) (key : String) (entry : σ → Option β) : Prop :=
  s.key ≠ key ∧ ∀ mode d kept kept', s.fill mode d kept = .ok kept' → entry kept' = entry kept

/-- What is kept of one field leaves the entry of another as it is. -/
theorem leaves_slot {γ : Type} {key other : String} {optional : Bool} {decode : Decoder γ}
    {own : σ → Option γ} {set : γ → σ → σ} {entry : σ → Option β} (hkey : other ≠ key)
    (hset : ∀ c kept, entry (set c kept) = entry kept) :
    Leaves (slot other optional decode own set) key entry := by
  refine ⟨hkey, fun mode d kept kept' hfill => ?_⟩
  obtain ⟨c, -, rfl⟩ := exists_of_fill_slot hfill
  exact hset c kept

/-- **A slot makes a field** if the other slots leave its entry alone. -/
theorem field_of_slots {r : Record σ α} {key : String} {optional : Bool} {decode : Decoder β}
    {entry : σ → Option β} {set : β → σ → σ} (before after : List (Slot σ))
    (hslots : r.slots = before ++ slot key optional decode entry set :: after)
    (hblank : entry r.blank = none) (hset : ∀ b kept, entry (set b kept) = some b)
    (hothers : ∀ slot ∈ before ++ after, Leaves slot key entry) :
    r.Field key decode entry := by
  have hcases : ∀ s ∈ r.slots, s = slot key optional decode entry set ∨ s ∈ before ++ after := by
    intro s hs
    rw [hslots] at hs
    rcases List.mem_append.mp hs with hs | hs
    · exact .inr (List.mem_append_left _ hs)
    · exact (List.mem_cons.mp hs).imp_right (List.mem_append_right _)
  refine ⟨?_, hblank, fun s hs hkey kept => ?_, fun s hs hkey => ?_, fun s hs hkey => ?_,
    fun s hs hkey => ?_⟩
  · rw [hslots, List.find?_isSome]
    exact ⟨_, List.mem_append_right _ List.mem_cons_self, beq_self_eq_true key⟩
  · rcases hcases s hs with rfl | hother
    · rfl
    · exact absurd hkey (hothers s hother).1
  · intro mode d kept kept' hfill
    rcases hcases s hs with rfl | hother
    · obtain ⟨b, hb, rfl⟩ := exists_of_fill_slot hfill
      exact ⟨b, hb, hset b kept⟩
    · exact absurd hkey (hothers s hother).1
  · intro mode d b hb kept
    rcases hcases s hs with rfl | hother
    · exact ⟨set b kept, congrArg (Except.map fun b => set b kept) hb⟩
    · exact absurd hkey (hothers s hother).1
  · intro mode d kept kept' hfill
    rcases hcases s hs with rfl | hother
    · exact absurd rfl hkey
    · exact (hothers s hother).2 mode d kept kept' hfill

/-- **What reading one more member can come to**: the member is passed over under a key
that nobody knows, or it fills an empty slot of its key. -/
theorem fillMembers_cons_cases {r : Record σ α} {mode : Mode} {ending : Ending}
    {name : Option String} {d : Draft} {rest : List (Option String × Draft)} {kept kept' : σ}
    (h : r.fillMembers mode ending ((name, d) :: rest) kept = .ok kept') :
    ∃ key, name = some key
      ∧ ((r.slots.find? (fun slot => slot.key == key) = none
          ∧ r.fillMembers mode ending rest kept = .ok kept')
        ∨ ∃ slot ∈ r.slots, ∃ next, slot.key = key ∧ slot.filled kept = false
          ∧ slot.fill mode d kept = .ok next
          ∧ r.fillMembers mode ending rest next = .ok kept') := by
  cases name with
  | none => cases h
  | some key =>
    refine ⟨key, rfl, ?_⟩
    rw [fillMembers] at h
    split at h
    · rename_i hunknown
      split at h
      · cases h
      · exact .inl ⟨hunknown, h⟩
    · rename_i slot hslot
      split at h
      · cases h
      · rename_i hempty
        split at h
        · cases h
        · rename_i next hfill
          exact .inr ⟨slot, List.mem_of_find?_eq_some hslot, next,
            by simpa using List.find?_some hslot, eq_false_of_ne_true hempty, hfill, h⟩

/-- At its end an object leaves what is kept as it is. -/
theorem eq_of_fillMembers_nil {r : Record σ α} {mode : Mode} {ending : Ending} {kept kept' : σ}
    (h : r.fillMembers mode ending [] kept = .ok kept') : kept = kept' := by
  rw [fillMembers] at h
  cases hread : ending.read <;> rw [hread] at h <;> cases h
  rfl

/-- **A field is kept from the first member under its key**, of which there is
no other, and from no other member. -/
theorem Field.kept {r : Record σ α} {key : String} {decode : Decoder β} {entry : σ → Option β}
    (field : r.Field key decode entry) {mode : Mode} {ending : Ending}
    {members : List (Option String × Draft)} {kept kept' : σ}
    (h : r.fillMembers mode ending members kept = .ok kept') :
    (members.lookup (some key) = none ∧ entry kept' = entry kept)
      ∨ ∃ d b, members.lookup (some key) = some d ∧ decode mode d = .ok b
        ∧ entry kept = none ∧ entry kept' = some b := by
  induction members generalizing kept with
  | nil =>
    obtain rfl := eq_of_fillMembers_nil h
    exact .inl ⟨rfl, rfl⟩
  | cons member rest ih =>
    obtain ⟨name, d⟩ := member
    obtain ⟨name, rfl, ⟨hunknown, h⟩ | ⟨slot, hmem, next, rfl, hempty, hfill, h⟩⟩ :=
      fillMembers_cons_cases h
    · -- an unknown key is not the field's
      have hne : (some key == some name) = false := by
        refine beq_eq_false_iff_ne.mpr (fun heq => ?_)
        have hknown := field.known
        rw [Option.some.inj heq, hunknown] at hknown
        cases hknown
      rw [List.lookup_cons, hne]
      exact ih h
    · by_cases hkey : slot.key = key
      · -- the field's own member, which no second one follows
        have hnone : entry kept = none := by
          rw [field.filled slot hmem hkey kept] at hempty
          exact Option.isNone_iff_eq_none.mp (Option.isSome_eq_false_iff.mp hempty)
        obtain ⟨b, hb, hnext⟩ := field.fill slot hmem hkey hfill
        rw [List.lookup_cons, hkey, beq_self_eq_true]
        refine .inr ⟨d, b, rfl, hb, hnone, ?_⟩
        rcases ih h with ⟨-, hrest⟩ | ⟨-, -, -, -, hfree, -⟩
        · exact hrest.trans hnext
        · cases hnext.symm.trans hfree
      · have hsame := field.others slot hmem hkey hfill
        rw [List.lookup_cons,
          beq_eq_false_iff_ne.mpr fun heq => hkey (Option.some.inj heq).symm, ← hsame]
        exact ih h

/-- A record is built from what the members of its object fill. -/
theorem decode_object_of_enter (r : Record σ α) {mode inner : Mode}
    (henter : mode.enter = .ok inner) (members : List (String × Value)) :
    r.decode mode (.ofValue (.object members))
      = (r.fillMembers inner .closed (Draft.ofMembers members) r.blank).bind r.build := by
  unfold Draft.ofValue decode
  dsimp only
  rw [henter]
  dsimp only
  cases r.fillMembers inner .closed (Draft.ofMembers members) r.blank <;> rfl

theorem decode_object (r : Record σ α) (members : List (String × Value)) :
    r.decode.ofValue (.object members)
      = (r.fillMembers .settled .closed (Draft.ofMembers members) r.blank).bind r.build :=
  r.decode_object_of_enter rfl members

/-- A record that is read from an object is built from what its members
fill. -/
theorem exists_of_decode_object {r : Record σ α} {members : List (String × Value)} {a : α}
    (h : r.decode.ofValue (.object members) = .ok a) :
    ∃ kept, r.fillMembers .settled .closed (Draft.ofMembers members) r.blank = .ok kept
      ∧ r.build kept = .ok a := by
  rw [decode_object] at h
  cases hkept : r.fillMembers .settled .closed (Draft.ofMembers members) r.blank with
  | error fault =>
    rw [hkept] at h
    cases h
  | ok kept =>
    rw [hkept] at h
    exact ⟨kept, rfl, h⟩

/-- **A field is what its decoder makes of the member under its key**, if the
object has one, and empty otherwise. -/
theorem Field.read {r : Record σ α} {key : String} {decode : Decoder β} {entry : σ → Option β}
    (field : r.Field key decode entry) {mode : Mode} {members : List (String × Value)} {kept : σ}
    (h : r.fillMembers mode .closed (Draft.ofMembers members) r.blank = .ok kept) :
    (members.lookup key = none ∧ entry kept = none)
      ∨ ∃ v b, members.lookup key = some v ∧ decode mode (.ofValue v) = .ok b
        ∧ entry kept = some b := by
  rcases field.kept h with ⟨hnone, hkept⟩ | ⟨d, b, hd, hb, -, hkept⟩
  · rw [Draft.lookup_ofMembers, Option.map_eq_none_iff] at hnone
    exact .inl ⟨hnone, hkept.trans field.blank⟩
  · rw [Draft.lookup_ofMembers] at hd
    obtain ⟨v, hv, rfl⟩ := Option.map_eq_some_iff.mp hd
    exact .inr ⟨v, b, hv, hb, hkept⟩

/-- A member under the key that can be read is kept in the field. -/
theorem Field.entry_of_lookup {r : Record σ α} {key : String} {decode : Decoder β}
    {entry : σ → Option β} (field : r.Field key decode entry) {mode : Mode}
    {members : List (String × Value)} {kept : σ}
    (h : r.fillMembers mode .closed (Draft.ofMembers members) r.blank = .ok kept)
    {v : Value} {b : β} (hv : members.lookup key = some v) (hb : decode mode (.ofValue v) = .ok b) :
    entry kept = some b := by
  rcases field.read h with ⟨hnone, -⟩ | ⟨w, c, hw, hc, hentry⟩
  · cases hv.symm.trans hnone
  · cases hv.symm.trans hw
    cases hb.symm.trans hc
    exact hentry

/-- Without a member under the key, the field is empty. -/
theorem Field.entry_of_missing {r : Record σ α} {key : String} {decode : Decoder β}
    {entry : σ → Option β} (field : r.Field key decode entry) {mode : Mode}
    {members : List (String × Value)} {kept : σ}
    (h : r.fillMembers mode .closed (Draft.ofMembers members) r.blank = .ok kept)
    (hnone : members.lookup key = none) : entry kept = none := by
  rcases field.read h with ⟨-, hentry⟩ | ⟨v, b, hv, -⟩
  · exact hentry
  · cases hv.symm.trans hnone

/-! ## Reading members in their order -/

/-- **The member of a field is read into it**, and then the rest is read. -/
theorem fillMembers_cons {r : Record σ α} {key : String} {optional : Bool} {decode : Decoder β}
    {entry : σ → Option β} {set : β → σ → σ} {mode : Mode} {v : Value}
    {rest : List (String × Value)} {kept : σ} {b : β}
    (hslot : (r.slots.find? fun slot => slot.key == key)
      = some (slot key optional decode entry set))
    (hempty : entry kept = none) (hread : decode mode (.ofValue v) = .ok b) :
    r.fillMembers mode .closed (Draft.ofMembers ((key, v) :: rest)) kept
      = r.fillMembers mode .closed (Draft.ofMembers rest) (set b kept) := by
  have hfilled : (slot key optional decode entry set).filled kept = false :=
    congrArg Option.isSome hempty
  have hfill : (slot key optional decode entry set).fill mode (.ofValue v) kept
      = .ok (set b kept) := congrArg (Except.map fun b => set b kept) hread
  rw [Draft.ofMembers, fillMembers, hslot]
  dsimp only
  rw [hfilled, hfill]
  rfl

/-! ## Reading items in their order -/

/-- A record is built from what the items of its array fill. -/
theorem decode_array (r : Record σ α) (items : List Value) :
    r.decode.ofValue (.array items)
      = (r.fillItems .settled .closed (Draft.ofItems items).length 0 r.slots (Draft.ofItems items)
          r.blank).bind r.build := by
  unfold Decoder.ofValue Draft.ofValue decode Mode.enter
  dsimp only
  cases r.fillItems .settled .closed (Draft.ofItems items).length 0 r.slots (Draft.ofItems items)
    r.blank <;> rfl

/-- **The item in the place of a field is read into it**, and then the rest is
read. -/
theorem fillItems_cons (r : Record σ α) {key : String} {optional : Bool} {decode : Decoder β}
    {entry : σ → Option β} {set : β → σ → σ} {slots : List (Slot σ)} {v : Value}
    {rest : List Value} {kept : σ} (total index : Nat) :
    r.fillItems .settled .closed total index (slot key optional decode entry set :: slots)
        (Draft.ofItems (v :: rest)) kept
      = (decode.ofValue v).bind fun b =>
          r.fillItems .settled .closed total (index + 1) slots (Draft.ofItems rest)
            (set b kept) := by
  have hfill : (slot key optional decode entry set).fill .settled (.ofValue v) kept
      = (decode.ofValue v).map fun b => set b kept := rfl
  rw [Draft.ofItems, fillItems, hfill]
  cases decode.ofValue v <;> rfl

/-! ## Reading all of an object -/

/-- Members are read to their end on top of what is kept, if nothing is kept of their fields
yet. -/
theorem exists_fillMembers_of_empty {r : Record σ α} {mode : Mode}
    {members : List (String × Value)}
    (hkeys : ∀ slot ∈ r.slots, (members.map Prod.fst).count slot.key ≤ 1)
    (hfields : ∀ slot ∈ r.slots, ∃ (β : Type) (decode : Decoder β) (entry : σ → Option β),
      r.Field slot.key decode entry
        ∧ ∀ v, (slot.key, v) ∈ members → ∃ b, decode mode (.ofValue v) = .ok b)
    {kept : σ} (hempty : ∀ slot ∈ r.slots, slot.key ∈ members.map Prod.fst →
      slot.filled kept = false) :
    ∃ kept', r.fillMembers mode .closed (Draft.ofMembers members) kept = .ok kept' := by
  induction members generalizing kept with
  | nil => exact ⟨kept, rfl⟩
  | cons member rest ih =>
    obtain ⟨key, v⟩ := member
    have hlaterKeys : ∀ slot ∈ r.slots, (rest.map Prod.fst).count slot.key ≤ 1 := fun slot hslot =>
      Nat.le_trans List.count_le_count_cons (hkeys slot hslot)
    have hlater : ∀ slot ∈ r.slots, ∃ (β : Type) (decode : Decoder β) (entry : σ → Option β),
        r.Field slot.key decode entry
          ∧ ∀ v, (slot.key, v) ∈ rest → ∃ b, decode mode (.ofValue v) = .ok b := by
      intro slot hslot
      obtain ⟨β, decode, entry, field, hread⟩ := hfields slot hslot
      exact ⟨β, decode, entry, field, fun v hv => hread v (List.mem_cons_of_mem _ hv)⟩
    rw [Draft.ofMembers, fillMembers]
    cases hfind : r.slots.find? fun slot => slot.key == key with
    | none =>
      dsimp only
      rw [Draft.skip_ofValue]
      exact ih hlaterKeys hlater fun slot hslot hmem =>
        hempty slot hslot (List.mem_cons_of_mem _ hmem)
    | some slot =>
      have hslot := List.mem_of_find?_eq_some hfind
      obtain rfl : slot.key = key := by simpa using List.find?_some hfind
      obtain ⟨β, decode, entry, field, hread⟩ := hfields slot hslot
      obtain ⟨b, hb⟩ := hread v List.mem_cons_self
      obtain ⟨next, hnext⟩ := field.reads slot hslot rfl hb kept
      dsimp only
      rw [hempty slot hslot List.mem_cons_self, hnext]
      refine ih hlaterKeys hlater fun other hother hmem => ?_
      -- the key of a later member is another one, and the slot leaves its field alone
      have hne : slot.key ≠ other.key := by
        intro heq
        have hcount := hkeys slot hslot
        rw [List.map_cons, List.count_cons_self] at hcount
        have := List.count_pos_iff.mpr (heq ▸ hmem)
        omega
      obtain ⟨_, _, _, otherField, -⟩ := hfields other hother
      rw [otherField.filled other hother rfl, otherField.others slot hslot hne hnext,
        ← otherField.filled other hother rfl]
      exact hempty other hother (List.mem_cons_of_mem _ hmem)

/-- **An object is read to its end** if it repeats no known key and what stands under those
can be read. -/
theorem exists_fillMembers {r : Record σ α} {mode : Mode} {members : List (String × Value)}
    (hkeys : ∀ slot ∈ r.slots, (members.map Prod.fst).count slot.key ≤ 1)
    (hfields : ∀ slot ∈ r.slots, ∃ (β : Type) (decode : Decoder β) (entry : σ → Option β),
      r.Field slot.key decode entry
        ∧ ∀ v, (slot.key, v) ∈ members → ∃ b, decode mode (.ofValue v) = .ok b) :
    ∃ kept, r.fillMembers mode .closed (Draft.ofMembers members) r.blank = .ok kept := by
  refine exists_fillMembers_of_empty hkeys hfields fun slot hslot _ => ?_
  obtain ⟨β, decode, entry, field, -⟩ := hfields slot hslot
  rw [field.filled slot hslot rfl, field.blank]
  rfl

/-! ## What every record is built from -/

/-- What filling a slot preserves, reading members preserves. -/
theorem of_fillMembers {r : Record σ α} {p : σ → Prop} {inside : List Draft}
    (hfill : ∀ slot ∈ r.slots, ∀ child ∈ inside, ∀ {mode : Mode} {kept kept' : σ}, p kept →
      slot.fill mode child kept = .ok kept' → p kept')
    {mode : Mode} {ending : Ending} {members : List (Option String × Draft)} {kept kept' : σ}
    (hinside : ∀ member ∈ members, member.2 ∈ inside) (hkept : p kept)
    (h : r.fillMembers mode ending members kept = .ok kept') : p kept' := by
  induction members generalizing kept with
  | nil =>
    obtain rfl := eq_of_fillMembers_nil h
    exact hkept
  | cons member rest ih =>
    rw [List.forall_mem_cons] at hinside
    obtain ⟨_, -, ⟨-, h⟩ | ⟨slot, hmem, next, -, -, hnext, h⟩⟩ := fillMembers_cons_cases h
    · exact ih hinside.2 hkept h
    · exact ih hinside.2 (hfill slot hmem member.2 hinside.1 hkept hnext) h

/-- And so does reading items. -/
theorem of_fillItems {r : Record σ α} {p : σ → Prop} {inside : List Draft}
    (hfill : ∀ slot ∈ r.slots, ∀ child ∈ inside, ∀ {mode : Mode} {kept kept' : σ}, p kept →
      slot.fill mode child kept = .ok kept' → p kept')
    {mode : Mode} {ending : Ending} {total index : Nat} {slots : List (Slot σ)}
    {items : List Draft} {kept kept' : σ} (hslots : ∀ slot ∈ slots, slot ∈ r.slots)
    (hinside : ∀ item ∈ items, item ∈ inside) (hkept : p kept)
    (h : r.fillItems mode ending total index slots items kept = .ok kept') : p kept' := by
  induction slots generalizing index items kept with
  | nil =>
    obtain ⟨_, -, rfl⟩ := Draft.exists_of_map_eq_ok h
    exact hkept
  | cons slot slots ih =>
    rw [List.forall_mem_cons] at hslots
    cases items with
    | nil =>
      rw [fillItems] at h
      split at h
      · cases h
      · split at h
        · exact ih hslots.2 hinside hkept h
        · cases h
    | cons item items =>
      rw [List.forall_mem_cons] at hinside
      rw [fillItems] at h
      split at h
      · cases h
      · rename_i next hnext
        exact ih hslots.2 hinside.2 (hfill slot hslots.1 item hinside.1 hkept hnext) h

/-- **What filling a slot preserves holds of what a record is built from**,
read in either form and from whatever draft. What a slot is filled with stands
inside that draft. -/
theorem exists_kept {r : Record σ α} {p : σ → Prop} {d : Draft} (hblank : p r.blank)
    (hfill : ∀ slot ∈ r.slots, ∀ child ∈ d.children, ∀ {mode : Mode} {kept kept' : σ}, p kept →
      slot.fill mode child kept = .ok kept' → p kept')
    {mode : Mode} {a : α} (h : r.decode mode d = .ok a) :
    ∃ kept, p kept ∧ r.build kept = .ok a := by
  unfold decode at h
  split at h
  · split at h
    · cases h
    · split at h
      · cases h
      · rename_i kept hkept
        exact ⟨kept, of_fillMembers hfill (fun _ hmem => List.mem_map_of_mem hmem) hblank hkept, h⟩
  · split at h
    · cases h
    · split at h
      · cases h
      · rename_i kept hkept
        exact ⟨kept, of_fillItems hfill (fun _ h => h) (fun _ h => h) hblank hkept, h⟩
  · exact absurd h (reject_ne_ok _ _ _)

/-- **What is kept of a field was read by its decoder**, from a draft inside
that of the record. -/
theorem Field.exists_kept {r : Record σ α} {key : String} {decode : Decoder β}
    {entry : σ → Option β} (field : r.Field key decode entry) {mode : Mode} {d : Draft} {a : α}
    (h : r.decode mode d = .ok a) :
    ∃ kept, r.build kept = .ok a ∧ ∀ b, entry kept = some b →
      ∃ mode, ∃ child ∈ d.children, decode mode child = .ok b := by
  obtain ⟨kept, hkept, hbuild⟩ := Record.exists_kept
    (p := fun kept => ∀ b, entry kept = some b →
      ∃ mode, ∃ child ∈ d.children, decode mode child = .ok b)
    (fun b hb => by rw [field.blank] at hb; cases hb)
    (fun slot hslot child hchild mode kept kept' hkept hfill b hb => by
      by_cases hkey : slot.key = key
      · obtain ⟨c, hc, hentry⟩ := field.fill slot hslot hkey hfill
        cases hentry.symm.trans hb
        exact ⟨mode, child, hchild, hc⟩
      · exact hkept b ((field.others slot hslot hkey hfill).symm.trans hb)) h
  exact ⟨kept, hbuild, hkept⟩

/-- **A field that may be absent and holds any value** is not kept as `null`,
and what is kept of it repeats no key. -/
theorem Field.kept_any {r : Record σ α} {key : String} {entry : σ → Option (Option Value)}
    (field : r.Field key (option any) entry) {mode : Mode} {d : Draft} {a : α}
    (h : r.decode mode d = .ok a) :
    ∃ kept, r.build kept = .ok a ∧ (entry kept).getD none ≠ some .null
      ∧ ∀ v ∈ (entry kept).getD none, v.distinctKeys = true := by
  obtain ⟨kept, hbuild, hkept⟩ := field.exists_kept h
  have hread : ∀ v, (entry kept).getD none = some v → v ≠ .null ∧ v.distinctKeys = true := by
    intro v hv
    obtain ⟨_, _, -, hread⟩ := hkept (some v) (eq_some_some_of_getD hv)
    exact of_option_any hread
  exact ⟨kept, hbuild, fun hnull => (hread .null hnull).1 rfl, fun v hv => (hread v hv).2⟩

end Record
end Decode
end CallScope
