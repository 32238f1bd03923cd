import CallScope.Decode.Record
import CallScope.Proofs.RoundTrip
import Mathlib.Data.List.Forall2

/-!
# Reading values in hand

A value in hand is read through its draft, which has no flaws, and without a
bound on its containers. So reading it as any value gives the value itself
(`Draft.value_ofValue_inHand`), reading it in one of several forms is a matter
of which form fits first (`untagged_ofValue`), and reading a list reads its
items one by one (`listItems_ofItems`).
-/

namespace CallScope

open Json

/-! ## Drafts without a bound -/

namespace Json.Draft

mutual
/-- **A bound that sufficed may be dropped.** -/
theorem value_inHand {room : Nat} : ∀ {draft : Draft} {v : Value},
    draft.value (some room) = .ok v → draft.value none = .ok v
  | .null, _, h | .bool _, _, h | .number (some _), _, h | .string (some _), _, h => h
  | .number none, _, h | .string none, _, h | .broken _ _ _, _, h => by cases h
  | .array items ending, _, h => by
    rw [value] at h
    split at h
    · cases h
    · rename_i hroom
      obtain ⟨inner, rfl, rfl⟩ := enter_eq_ok hroom
      obtain ⟨vs, hitems, rfl⟩ := exists_of_map_eq_ok h
      show (itemValues none items ending).map Value.array = _
      rw [itemValues_inHand hitems]
      rfl
  | .object members ending, _, h => by
    rw [value] at h
    split at h
    · cases h
    · rename_i hroom
      obtain ⟨inner, rfl, rfl⟩ := enter_eq_ok hroom
      obtain ⟨vs, hmembers, rfl⟩ := exists_of_map_eq_ok h
      show (memberValues none members ending []).map Value.object = _
      rw [memberValues_inHand hmembers]
      rfl

/-- A bound that sufficed for items may be dropped. -/
theorem itemValues_inHand {room : Nat} : ∀ {items : List Draft} {ending : Ending}
    {vs : List Value}, itemValues (some room) items ending = .ok vs →
      itemValues none items ending = .ok vs
  | [], _, _, h => h
  | item :: rest, ending, vs, h => by
    rw [itemValues] at h
    split at h
    · cases h
    · rename_i v hv
      obtain ⟨others, hrest, rfl⟩ := exists_of_map_eq_ok h
      rw [itemValues, value_inHand hv, itemValues_inHand hrest]
      rfl

/-- A bound that sufficed for members may be dropped. -/
theorem memberValues_inHand {room : Nat} : ∀ {members : List (Option String × Draft)}
    {ending : Ending} {before vs : List (String × Value)},
    memberValues (some room) members ending before = .ok vs →
      memberValues none members ending before = .ok vs
  | [], _, _, _, h => h
  | (none, _) :: _, _, _, _, h => by cases h
  | (some key, item) :: rest, ending, before, vs, h => by
    rw [memberValues] at h
    split at h
    · cases h
    · rename_i v hv
      rw [memberValues, value_inHand hv]
      exact memberValues_inHand h
end

/-- **A value in hand is read as itself**, if no object in it repeats a key. -/
theorem value_ofValue_inHand {v : Value} (hkeys : v.distinctKeys = true) :
    (ofValue v).value none = .ok v :=
  value_inHand ((value_ofValue hkeys v.depth).trans (fitting_of_le (Nat.le_refl _) v))

/-- **The draft of a value has a value**, which is another one only where an
object repeats a key. -/
theorem exists_value_ofValue (v : Value) : ∃ w, (ofValue v).value none = .ok w := by
  induction v using Value.containers with
  | null | bool | number | string => exact ⟨_, rfl⟩
  | array items ih =>
    have hitems : ∃ ws, itemValues none (ofItems items) .closed = .ok ws := by
      induction items with
      | nil => exact ⟨[], rfl⟩
      | cons item rest ihrest =>
        rw [List.forall_mem_cons] at ih
        obtain ⟨w, hw⟩ := ih.1
        obtain ⟨ws, hws⟩ := ihrest ih.2
        exact ⟨w :: ws, by rw [ofItems, itemValues, hw, hws]; rfl⟩
    obtain ⟨ws, hws⟩ := hitems
    exact ⟨.array ws, by rw [ofValue, value]; exact congrArg (Except.map Value.array) hws⟩
  | object members ih =>
    have hmembers : ∀ before, ∃ ws, memberValues none (ofMembers members) .closed before
        = .ok ws := by
      induction members with
      | nil => exact fun before => ⟨before, rfl⟩
      | cons member rest ihrest =>
        rw [List.forall_mem_cons] at ih
        obtain ⟨w, hw⟩ := ih.1
        intro before
        obtain ⟨ws, hws⟩ := ihrest ih.2 (Value.insertMember member.1 w before)
        exact ⟨ws, by rw [ofMembers, memberValues, hw]; exact hws⟩
    obtain ⟨ws, hws⟩ := hmembers []
    exact ⟨.object ws, by rw [ofValue, value]; exact congrArg (Except.map Value.object) hws⟩

mutual
/-- **What is read repeats no key**, with a bound or without. -/
theorem distinctKeys_of_value {room : Option Nat} : ∀ {draft : Draft} {v : Value},
    draft.value room = .ok v → v.distinctKeys = true
  | .null, _, h | .bool _, _, h | .number (some _), _, h | .string (some _), _, h => by
    cases h
    rfl
  | .number none, _, h | .string none, _, h | .broken _ _ _, _, h => by cases h
  | .array items ending, _, h => by
    rw [value] at h
    split at h
    · cases h
    · obtain ⟨vs, hitems, rfl⟩ := exists_of_map_eq_ok h
      exact Value.distinctKeysItems_iff.mpr (distinctKeys_of_itemValues hitems)
  | .object members ending, _, h => by
    rw [value] at h
    split at h
    · cases h
    · obtain ⟨vs, hmembers, rfl⟩ := exists_of_map_eq_ok h
      exact Value.distinctKeys_object.mpr
        (distinctKeys_of_memberValues hmembers List.nodup_nil (by simp))

/-- What is read of items repeats no key. -/
theorem distinctKeys_of_itemValues {room : Option Nat} : ∀ {items : List Draft}
    {ending : Ending} {vs : List Value}, itemValues room items ending = .ok vs →
      ∀ v ∈ vs, v.distinctKeys = true
  | [], _, _, h => by
    obtain ⟨_, -, rfl⟩ := exists_of_map_eq_ok h
    simp
  | item :: rest, ending, vs, h => by
    rw [itemValues] at h
    split at h
    · cases h
    · rename_i v hv
      obtain ⟨others, hrest, rfl⟩ := exists_of_map_eq_ok h
      exact List.forall_mem_cons.mpr ⟨distinctKeys_of_value hv, distinctKeys_of_itemValues hrest⟩

/-- What is read of members repeats no key. -/
theorem distinctKeys_of_memberValues {room : Option Nat} :
    ∀ {members : List (Option String × Draft)} {ending : Ending}
    {before vs : List (String × Value)}, memberValues room members ending before = .ok vs →
      (before.map Prod.fst).Nodup → (∀ member ∈ before, member.2.distinctKeys = true) →
        (vs.map Prod.fst).Nodup ∧ ∀ member ∈ vs, member.2.distinctKeys = true
  | [], _, _, _, h, hkeys, hall => by
    obtain ⟨_, -, rfl⟩ := exists_of_map_eq_ok h
    exact ⟨hkeys, hall⟩
  | (none, _) :: _, _, _, _, h, _, _ => by cases h
  | (some key, item) :: rest, ending, before, vs, h, hkeys, hall => by
    rw [memberValues] at h
    split at h
    · cases h
    · rename_i v hv
      have hmembers := Value.forall_insertMember (p := fun v => v.distinctKeys = true)
        (distinctKeys_of_value hv) hall key
      exact distinctKeys_of_memberValues h (Value.nodup_insertMember hkeys key v) hmembers
end

/-- Only `null` has the draft of `null`. -/
theorem ofValue_ne_null {v : Value} (h : v ≠ .null) : ofValue v ≠ .null := by
  cases v <;> first | exact absurd rfl h | exact Draft.noConfusion

/-- Only `null` is read as `null`. -/
theorem eq_null_of_value {room : Option Nat} {d : Draft} (h : d.value room = .ok .null) :
    d = .null := by
  cases d with
  | null => rfl
  | number n => cases n <;> cases h
  | string s => cases s <;> cases h
  | array items ending =>
    rw [value] at h
    split at h
    · cases h
    · obtain ⟨vs, -, hvs⟩ := exists_of_map_eq_ok h
      cases hvs
  | object members ending =>
    rw [value] at h
    split at h
    · cases h
    · obtain ⟨vs, -, hvs⟩ := exists_of_map_eq_ok h
      cases hvs
  | _ => cases h

end Json.Draft

/-- **What is read from a text repeats no key.** -/
theorem Json.Value.distinctKeys_of_ofText {text : String} {v : Value}
    (h : Value.ofText text = .ok v) : v.distinctKeys = true := by
  unfold Value.ofText at h
  dsimp only at h
  split at h
  · cases h
  · rename_i w hw
    split at h
    · cases h
    · cases h
      exact Draft.distinctKeys_of_value hw

namespace Decode

/-! ## Values that may be absent -/

theorem option_of_ne_null {α : Type} {decode : Decoder α} {mode : Mode} {d : Draft}
    (h : d ≠ .null) : option decode mode d = (decode mode d).map some := by
  cases d <;> first | rfl | exact absurd rfl h

/-- A value that is no `null` is read as present. -/
theorem option_any_ofValue {v : Value} (hnull : v ≠ .null) (hkeys : v.distinctKeys = true) :
    (option any).ofValue v = .ok (some v) := by
  have hany : any .settled (.ofValue v) = .ok v :=
    congrArg flawed (Draft.value_ofValue_inHand hkeys)
  unfold Decoder.ofValue
  rw [option_of_ne_null (Draft.ofValue_ne_null hnull), hany]
  rfl

/-- **A value that is read as present** is no `null`, and repeats no key. -/
theorem of_option_any {mode : Mode} {d : Draft} {v : Value}
    (h : option any mode d = .ok (some v)) : v ≠ .null ∧ v.distinctKeys = true := by
  have hdraft : d ≠ .null := by
    rintro rfl
    cases h
  rw [option_of_ne_null hdraft] at h
  obtain ⟨w, hany, hw⟩ := Draft.exists_of_map_eq_ok h
  cases hw
  have hvalue : d.value mode.room = .ok v := by
    change flawed (d.value mode.room) = .ok v at hany
    cases hread : d.value mode.room with
    | ok w =>
      rw [hread] at hany
      cases hany
      rfl
    | error flaw =>
      rw [hread] at hany
      cases hany
  refine ⟨fun hnull => hdraft ?_, Draft.distinctKeys_of_value hvalue⟩
  exact Draft.eq_null_of_value (hnull ▸ hvalue)

/-! ## Forms -/

/-- The first form is taken if it fits. -/
theorem firstOf_cons {α : Type} {decode : Decoder α} {d : Draft} {a : α}
    (h : decode .settled d = .ok a) (rest : List (Decoder α)) :
    firstOf d (decode :: rest) = some a := by
  rw [firstOf, h]

/-- A value that fits a form is read in it. -/
theorem untagged_of_firstOf {α : Type} {type : String} {forms : List (Decoder α)} {mode : Mode}
    {d : Draft} {v : Value} {a : α} (hvalue : d.value mode.room = .ok v)
    (hfirst : firstOf d forms = some a) : untagged type forms mode d = .ok a := by
  unfold untagged
  rw [hvalue, hfirst]

/-- **A value in hand is read in the first form that fits**, if one does. -/
theorem untagged_ofValue {α : Type} (type : String) (forms : List (Decoder α)) (v : Value) :
    (untagged type forms).ofValue v
      = match firstOf (.ofValue v) forms with
        | some a => .ok a
        | none => mismatch (.noVariant type) := by
  obtain ⟨w, hw⟩ := Draft.exists_value_ofValue v
  have hvalue : (Draft.ofValue v).value Mode.settled.room = .ok w := hw
  unfold Decoder.ofValue untagged
  cases firstOf (.ofValue v) forms <;> simp only [hvalue]

/-- A form that does not fit is passed over. -/
theorem firstOf_cons_of_ne {α : Type} {decode : Decoder α} {d : Draft}
    (h : ∀ a, decode .settled d ≠ .ok a) (rest : List (Decoder α)) :
    firstOf d (decode :: rest) = firstOf d rest := by
  rw [firstOf]
  split
  · rename_i a ha
    exact absurd ha (h a)
  · rfl

/-- A value that is read in one of several forms fits it, and fits none of the
forms before. -/
theorem firstOf_cons_cases {α : Type} {decode : Decoder α} {rest : List (Decoder α)} {d : Draft}
    {a : α} (h : firstOf d (decode :: rest) = some a) :
    decode .settled d = .ok a
      ∨ (∀ b, decode .settled d ≠ .ok b) ∧ firstOf d rest = some a := by
  rw [firstOf] at h
  split at h
  · rename_i b hb
    exact .inl (hb.trans (congrArg _ (Option.some.inj h)))
  · rename_i fault hfault
    refine .inr ⟨fun b hb => ?_, h⟩
    cases hfault.symm.trans hb

/-- What is read as one of several forms is read in one of them. -/
theorem firstOf_of_untagged {α : Type} {type : String} {forms : List (Decoder α)} {mode : Mode}
    {d : Draft} {a : α} (h : untagged type forms mode d = .ok a) :
    firstOf d forms = some a := by
  unfold untagged at h
  split at h
  · cases h
  · split at h
    · rename_i b hb
      cases h
      exact hb
    · cases h

/-- What a decoder is turned down for is not read. -/
theorem reject_ne_ok {α : Type} (expected : String) (d : Draft) (a : α) :
    reject expected d ≠ .ok a := by
  intro h
  unfold reject at h
  split at h <;> cases h

/-- Only a string is read as one. -/
theorem string_ofValue_eq_ok_iff {v : Value} {s : String} :
    string.ofValue v = .ok s ↔ v = .string s := by
  constructor
  · intro h
    cases v with
    | string t =>
      cases h
      rfl
    | number n => exact absurd (show reject _ _ = .ok s from h) (reject_ne_ok _ _ _)
    | _ => cases h
  · rintro rfl
    rfl

/-! ## Items -/

/-- **A list is read back** if its items are. -/
theorem list_ofValue_map {α : Type} {decode : Decoder α} {toValue : α → Value} {as : List α}
    (h : ∀ a ∈ as, decode.ofValue (toValue a) = .ok a) :
    (list decode).ofValue (.array (as.map toValue)) = .ok as := by
  change listItems decode .settled .closed (Draft.ofItems (as.map toValue)) = .ok as
  induction as with
  | nil => rfl
  | cons a as ih =>
    rw [List.forall_mem_cons] at h
    rw [List.map_cons, Draft.ofItems, listItems, show decode .settled _ = _ from h.1]
    dsimp only
    rw [ih h.2]
    rfl

/-- A list is read of an array. -/
theorem exists_of_list_ofValue {α : Type} {decode : Decoder α} {v : Value} {decoded : List α}
    (h : (list decode).ofValue v = .ok decoded) : ∃ items, v = .array items := by
  unfold Decoder.ofValue list at h
  split at h
  · rename_i hdraft
    cases v with
    | array items => exact ⟨items, rfl⟩
    | _ => cases hdraft
  · exact absurd h (reject_ne_ok _ _ _)

/-- **A list is read item by item.** -/
theorem listItems_ofItems {α : Type} {decode : Decoder α} {values : List Value} {decoded : List α}
    (h : (list decode).ofValue (.array values) = .ok decoded) :
    List.Forall₂ (fun v a => decode.ofValue v = .ok a) values decoded := by
  change listItems decode .settled .closed (Draft.ofItems values) = .ok decoded at h
  induction values generalizing decoded with
  | nil =>
    cases h
    exact .nil
  | cons v rest ih =>
    rw [Draft.ofItems, listItems] at h
    split at h
    · cases h
    · rename_i a ha
      obtain ⟨others, hrest, rfl⟩ := Draft.exists_of_map_eq_ok h
      exact .cons ha (ih hrest)

/-- What holds of all that is read of items holds of the list. -/
theorem forall_of_list_ofValue {α : Type} {decode : Decoder α} {values : List Value}
    {decoded : List α} {p : α → Prop} (h : (list decode).ofValue (.array values) = .ok decoded)
    (hitem : ∀ v ∈ values, ∀ a, decode.ofValue v = .ok a → p a) : ∀ a ∈ decoded, p a := by
  have hitems := listItems_ofItems h
  clear h
  induction hitems with
  | nil => simp
  | cons ha _ ih =>
    rw [List.forall_mem_cons] at hitem
    exact List.forall_mem_cons.mpr ⟨hitem.1 _ ha, ih hitem.2⟩

end Decode
end CallScope
