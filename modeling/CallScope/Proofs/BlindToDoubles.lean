import CallScope.Proofs.RecordFields

/-!
# Records without doubles

A double may be read from its text as the one beside it, or not at all, so the
text of a value is not always read as the value. Most decoders do not notice:
one that has no use for doubles reads off the text what it reads off the value
(`Decoder.Blind`), a double standing there only where it is passed over. A
record is blind to doubles if its slots are (`Record.blind_decode`).
-/

namespace CallScope

open Json

/-- What the text of a value is read as can be passed over. -/
theorem Json.Value.skip_reread (v : Value) : v.reread.skip = .ok () := by
  induction v using Value.containers with
  | null | bool | number | string => rfl
  | array items ih =>
    show Draft.skipItems (rereadItems items) .closed = .ok ()
    induction items with
    | nil => rfl
    | cons item rest ihrest =>
      rw [List.forall_mem_cons] at ih
      rw [rereadItems, Draft.skipItems, ih.1]
      exact ihrest ih.2
  | object members ih =>
    show Draft.skipMembers (rereadMembers members) .closed = .ok ()
    induction members with
    | nil => rfl
    | cons member rest ihrest =>
      rw [List.forall_mem_cons] at ih
      rw [rereadMembers, Draft.skipMembers, ih.1]
      exact ihrest ih.2

namespace Decode

variable {σ α : Type}

/-- **A decoder that is blind to doubles**: what it reads off a value it reads off
the text of the value. -/
def Decoder.Blind (decode : Decoder α) : Prop :=
  ∀ ⦃mode v a⦄, decode mode (.ofValue v) = .ok a → decode mode v.reread = .ok a

theorem blind_string : Decoder.Blind string := fun _ v _ h => by
  cases v with
  | string s => exact h
  | number n => cases n <;> cases h
  | _ => cases h

theorem blind_bool : Decoder.Blind bool := fun _ v _ h => by
  cases v with
  | bool b => exact h
  | number n => cases n <;> cases h
  | _ => cases h

/-- A word is read off integers, which read back. -/
theorem blind_word (expected : String) : (word expected).Blind := fun mode v w h => by
  cases v with
  | number n =>
    cases n with
    | integer i =>
      show word expected mode (.number (Number.integer i).reread) = _
      rw [Number.readsBack_integer i]
      exact h
    | double x _ => cases h
  | _ => cases h

/-- A slot that is blind to doubles. -/
def Slot.Blind (s : Slot σ) : Prop :=
  ∀ ⦃mode v kept kept'⦄, s.fill mode (.ofValue v) kept = .ok kept' →
    s.fill mode v.reread kept = .ok kept'

theorem Decoder.Blind.slot {decode : Decoder α} (h : decode.Blind) {key : String}
    {optional : Bool} {entry : σ → Option α} {set : α → σ → σ} :
    (slot key optional decode entry set).Blind := fun mode v kept kept' hfill => by
  obtain ⟨a, ha, rfl⟩ := exists_of_fill_slot hfill
  exact congrArg (Except.map fun a => set a kept) (h ha)

namespace Record

variable {r : Record σ α} {mode : Mode}

/-- The members of an object fill what they fill in hand. -/
theorem fillMembers_reread (h : ∀ slot ∈ r.slots, slot.Blind) {members : List (String × Value)}
    {kept kept' : σ}
    (hfill : r.fillMembers mode .closed (Draft.ofMembers members) kept = .ok kept') :
    r.fillMembers mode .closed (Value.rereadMembers members) kept = .ok kept' := by
  induction members generalizing kept with
  | nil => exact hfill
  | cons member rest ih =>
    obtain ⟨key, v⟩ := member
    rw [Draft.ofMembers, fillMembers] at hfill
    rw [Value.rereadMembers, fillMembers]
    cases hslot : r.slots.find? fun slot => slot.key == key with
    | none =>
      rw [hslot, Draft.skip_ofValue] at hfill
      rw [Value.skip_reread]
      exact ih hfill
    | some slot =>
      rw [hslot] at hfill
      dsimp only at hfill ⊢
      split at hfill
      · cases hfill
      · rename_i hempty
        rw [if_neg hempty]
        cases hnext : slot.fill mode (.ofValue v) kept with
        | error fault =>
          rw [hnext] at hfill
          cases hfill
        | ok next =>
          rw [hnext] at hfill
          rw [h slot (List.mem_of_find?_eq_some hslot) hnext]
          exact ih hfill

/-- The items of an array fill what they fill in hand. -/
theorem fillItems_reread {slots : List (Slot σ)} (h : ∀ slot ∈ slots, slot.Blind)
    {items : List Value} {total index : Nat} {kept kept' : σ}
    (hfill : r.fillItems mode .closed total index slots (Draft.ofItems items) kept = .ok kept') :
    r.fillItems mode .closed total index slots (Value.rereadItems items) kept = .ok kept' := by
  induction slots generalizing items index kept with
  | nil => cases items <;> exact hfill
  | cons slot slots ih =>
    rw [List.forall_mem_cons] at h
    cases items with
    | nil => exact hfill
    | cons item items =>
      rw [Draft.ofItems, fillItems] at hfill
      rw [Value.rereadItems, fillItems]
      cases hnext : slot.fill mode (.ofValue item) kept with
      | error fault =>
        rw [hnext] at hfill
        cases hfill
      | ok next =>
        rw [hnext] at hfill
        rw [h.1 hnext]
        exact ih h.2 hfill

theorem length_rereadItems (items : List Value) :
    (Value.rereadItems items).length = (Draft.ofItems items).length := by
  induction items with
  | nil => rfl
  | cons item rest ih => exact congrArg Nat.succ ih

/-- **A record is blind to doubles if its slots are.** -/
theorem blind_decode (h : ∀ slot ∈ r.slots, slot.Blind) : r.decode.Blind := fun mode v a hread => by
  cases v with
  | object members =>
    unfold Value.reread decode
    unfold Draft.ofValue decode at hread
    dsimp only at hread ⊢
    split at hread
    · cases hread
    · split at hread
      · cases hread
      · rename_i hkept
        rw [fillMembers_reread h hkept]
        exact hread
  | array items =>
    unfold Value.reread decode
    unfold Draft.ofValue decode at hread
    dsimp only at hread ⊢
    split at hread
    · cases hread
    · split at hread
      · cases hread
      · rename_i hkept
        rw [length_rereadItems, fillItems_reread h hkept]
        exact hread
  | number n => cases n <;> cases hread
  | _ => cases hread

end Record
end Decode
end CallScope
