import CallScope.Proofs.PlainText

/-!
# Values that survive their text

The text of a value is read as the draft of the value with its numbers read
again (`Scan.isTextOf_write`). That is the draft of the value itself if all its
numbers read back (`Value.reread_eq`), which integers do and doubles of many
digits may not. The value of that draft is the value again if no object repeats
a key and there is room for its containers (`Draft.value_ofValue`). Where there
is too little room, reading stops: a text reads back exactly if its value nests
no deeper than `nestingLimit` (`Value.ofText_write`). It does not matter if every
item stands on a line of its own (`Value.Fits.ofText_indented`).

Together with what the spaced text consists of, this is what callers rely on
who put values into attributes and read them back there (`Value.survives`).
-/

namespace CallScope.Json

/-! ## Depth and keys -/

namespace Value

mutual
/-- **How deep containers nest** in a value. -/
def depth : Value → Nat
  | .array items => depthItems items + 1
  | .object members => depthMembers members + 1
  | _ => 0

/-- The depth of the deepest of some items. -/
def depthItems : List Value → Nat
  | [] => 0
  | item :: rest => max (depth item) (depthItems rest)

/-- The depth of the deepest of some members. -/
def depthMembers : List (String × Value) → Nat
  | [] => 0
  | (_, value) :: rest => max (depth value) (depthMembers rest)
end

mutual
/-- **Whether no object repeats a key.** Objects come about by
`Value.insertMember`, which repeats none (`nodup_insertMember`). -/
def distinctKeys : Value → Bool
  | .array items => distinctKeysItems items
  | .object members => decide (members.map Prod.fst).Nodup && distinctKeysMembers members
  | _ => true

/-- Whether no object within some items repeats a key. -/
def distinctKeysItems : List Value → Bool
  | [] => true
  | item :: rest => distinctKeys item && distinctKeysItems rest

/-- Whether no object within some members repeats a key. -/
def distinctKeysMembers : List (String × Value) → Bool
  | [] => true
  | (_, value) :: rest => distinctKeys value && distinctKeysMembers rest
end

theorem distinctKeysItems_iff {items : List Value} :
    distinctKeysItems items = true ↔ ∀ item ∈ items, item.distinctKeys = true := by
  induction items with
  | nil => simp [distinctKeysItems]
  | cons item rest ih => rw [distinctKeysItems, Bool.and_eq_true, ih, List.forall_mem_cons]

theorem distinctKeysMembers_iff {members : List (String × Value)} :
    distinctKeysMembers members = true ↔ ∀ member ∈ members, member.2.distinctKeys = true := by
  induction members with
  | nil => simp [distinctKeysMembers]
  | cons member rest ih => rw [distinctKeysMembers, Bool.and_eq_true, ih, List.forall_mem_cons]

theorem distinctKeys_object {members : List (String × Value)} :
    (object members).distinctKeys = true ↔
      (members.map Prod.fst).Nodup ∧ ∀ member ∈ members, member.2.distinctKeys = true := by
  rw [distinctKeys, Bool.and_eq_true, decide_eq_true_iff, distinctKeysMembers_iff]

/-- A new key goes to the end. -/
theorem insertMember_of_not_mem {key : String} {members : List (String × Value)}
    (h : key ∉ members.map Prod.fst) (v : Value) :
    insertMember key v members = members ++ [(key, v)] := by
  induction members with
  | nil => rfl
  | cons member rest ih =>
    rw [List.map_cons, List.mem_cons, not_or] at h
    rw [insertMember, if_neg (Ne.symm h.1), ih h.2, List.cons_append]

/-- A key that is there already stays where it is. -/
theorem keys_insertMember_of_mem {key : String} {members : List (String × Value)}
    (h : key ∈ members.map Prod.fst) (v : Value) :
    (insertMember key v members).map Prod.fst = members.map Prod.fst := by
  induction members with
  | nil => cases h
  | cons member rest ih =>
    obtain ⟨k, old⟩ := member
    rw [insertMember]
    split
    · rfl
    · rename_i hne
      rw [List.map_cons, List.mem_cons] at h
      rw [List.map_cons, List.map_cons, ih (h.resolve_left (Ne.symm hne))]

/-- No key is repeated by one more member. -/
theorem nodup_insertMember {members : List (String × Value)} (h : (members.map Prod.fst).Nodup)
    (key : String) (v : Value) : ((insertMember key v members).map Prod.fst).Nodup := by
  by_cases hkey : key ∈ members.map Prod.fst
  · rwa [keys_insertMember_of_mem hkey]
  · rw [insertMember_of_not_mem hkey, List.map_append, List.nodup_append]
    refine ⟨h, List.pairwise_singleton _ _, fun k hk other hother => ?_⟩
    rw [List.mem_singleton.mp hother]
    rintro rfl
    exact hkey hk

/-- One more member brings in no value but its own. -/
theorem forall_insertMember {p : Value → Prop} {members : List (String × Value)} {v : Value}
    (hv : p v) (h : ∀ member ∈ members, p member.2) (key : String) :
    ∀ member ∈ insertMember key v members, p member.2 := by
  induction members with
  | nil => exact List.forall_mem_cons.mpr ⟨hv, fun _ h => by cases h⟩
  | cons member rest ih =>
    rw [List.forall_mem_cons] at h
    rw [insertMember]
    split
    · exact List.forall_mem_cons.mpr ⟨hv, h.2⟩
    · exact List.forall_mem_cons.mpr ⟨h.1, ih h.2⟩

mutual
/-- **The numbers in a value.** -/
def numbers : Value → List Number
  | .number n => [n]
  | .array items => numbersItems items
  | .object members => numbersMembers members
  | _ => []

/-- The numbers in some items. -/
def numbersItems : List Value → List Number
  | [] => []
  | item :: rest => numbers item ++ numbersItems rest

/-- The numbers in some members. -/
def numbersMembers : List (String × Value) → List Number
  | [] => []
  | (_, value) :: rest => numbers value ++ numbersMembers rest
end

/-- **Whether all numbers in a value read back.** Integers do; this asks
something of doubles only. -/
def NumbersReadBack (v : Value) : Prop := ∀ n ∈ v.numbers, n.ReadsBack

instance (v : Value) : Decidable v.NumbersReadBack :=
  inferInstanceAs (Decidable (∀ n ∈ v.numbers, n.ReadsBack))

theorem numbersReadBack_array {items : List Value} :
    (array items).NumbersReadBack ↔ ∀ item ∈ items, item.NumbersReadBack := by
  show (∀ n ∈ numbersItems items, n.ReadsBack) ↔ _
  induction items with
  | nil => simp [numbersItems]
  | cons item rest ih => rw [numbersItems, List.forall_mem_append, ih, List.forall_mem_cons]; rfl

theorem numbersReadBack_object {members : List (String × Value)} :
    (object members).NumbersReadBack ↔ ∀ member ∈ members, member.2.NumbersReadBack := by
  show (∀ n ∈ numbersMembers members, n.ReadsBack) ↔ _
  induction members with
  | nil => simp [numbersMembers]
  | cons member rest ih =>
    rw [numbersMembers, List.forall_mem_append, ih, List.forall_mem_cons]
    rfl

/-- **A value whose text reads back** where there is room for so many containers. -/
structure Fits (room : Nat) (v : Value) : Prop where
  keys : v.distinctKeys = true
  numbers : v.NumbersReadBack
  depth : v.depth ≤ room

theorem Fits.array {room : Nat} {items : List Value} (h : ∀ item ∈ items, item.Fits room) :
    (array items).Fits (room + 1) where
  keys := distinctKeysItems_iff.mpr fun item hitem => (h item hitem).keys
  numbers := numbersReadBack_array.mpr fun item hitem => (h item hitem).numbers
  depth := Nat.succ_le_succ (by
    induction items with
    | nil => exact Nat.zero_le _
    | cons item rest ih =>
      rw [List.forall_mem_cons] at h
      exact Nat.max_le.mpr ⟨h.1.depth, ih h.2⟩)

/-! ## What a text is read as -/

/-- **A value all whose numbers read back is read as it is.** -/
theorem reread_eq {v : Value} (h : v.NumbersReadBack) : v.reread = .ofValue v := by
  induction v using Value.containers with
  | null | bool | string => rfl
  | number n => exact congrArg Draft.number (h n List.mem_cons_self)
  | array items ih =>
    rw [numbersReadBack_array] at h
    have hitems : rereadItems items = Draft.ofItems items := by
      induction items with
      | nil => rfl
      | cons item rest ihrest =>
        rw [List.forall_mem_cons] at h ih
        rw [rereadItems, Draft.ofItems, ih.1 h.1, ihrest ih.2 h.2]
    rw [reread, hitems, Draft.ofValue]
  | object members ih =>
    rw [numbersReadBack_object] at h
    have hmembers : rereadMembers members = Draft.ofMembers members := by
      induction members with
      | nil => rfl
      | cons member rest ihrest =>
        rw [List.forall_mem_cons] at h ih
        rw [rereadMembers, Draft.ofMembers, ih.1 h.1, ihrest ih.2 h.2]
    rw [reread, hmembers, Draft.ofValue]

end Value

/-! ## The value of a value's draft -/

/-- What is read where there is room for so many containers. -/
def fitting {α : Type} (depth room : Nat) (a : α) : Except Flaw α :=
  if depth ≤ room then .ok a else .error .malformed

section Fitting

variable {α : Type} {depth other room : Nat}

theorem fitting_of_le (h : depth ≤ room) (a : α) : fitting depth room a = .ok a := if_pos h

theorem fitting_of_not_le (h : ¬depth ≤ room) (a : α) : fitting depth room a = .error .malformed :=
  if_neg h

theorem fitting_max (h : depth ≤ room) (a : α) :
    fitting (max depth other) room a = fitting other room a := by
  by_cases hother : other ≤ room
  · rw [fitting_of_le hother, fitting_of_le (Nat.max_le.mpr ⟨h, hother⟩)]
  · rw [fitting_of_not_le hother, fitting_of_not_le fun hmax => hother (Nat.max_le.mp hmax).2]

theorem map_fitting {β : Type} (f : α → β) (a : α) :
    (fitting depth room a).map f = fitting depth room (f a) := by
  unfold fitting
  split <;> rfl

theorem fitting_succ (a : α) : fitting (depth + 1) (room + 1) a = fitting depth room a := by
  by_cases h : depth ≤ room
  · rw [fitting_of_le h, fitting_of_le (Nat.succ_le_succ h)]
  · rw [fitting_of_not_le h, fitting_of_not_le fun hsucc => h (Nat.le_of_succ_le_succ hsucc)]

end Fitting

/-- A key that is not repeated behind some members is not among them. -/
theorem notMem_of_nodup_append {before rest : List (String × Value)} {key : String} {v : Value}
    (h : ((before ++ (key, v) :: rest).map Prod.fst).Nodup) : key ∉ before.map Prod.fst := by
  rw [List.map_append, List.map_cons, List.nodup_append] at h
  exact fun hmem => h.2.2 key hmem key List.mem_cons_self rfl

namespace Draft

/-- The items of an array come back, if there is room for the deepest. -/
theorem itemValues_ofItems {room : Nat} {items : List Value}
    (h : ∀ item ∈ items, (ofValue item).value (some room) = fitting item.depth room item) :
    itemValues (some room) (ofItems items) .closed
      = fitting (Value.depthItems items) room items := by
  induction items with
  | nil => rfl
  | cons item rest ih =>
    rw [List.forall_mem_cons] at h
    rw [ofItems, itemValues, h.1, ih h.2, Value.depthItems]
    by_cases hitem : item.depth ≤ room
    · rw [fitting_of_le hitem, fitting_max hitem]
      exact map_fitting _ _
    · rw [fitting_of_not_le hitem, fitting_of_not_le fun hmax => hitem (Nat.max_le.mp hmax).1]

/-- The members of an object come back behind those before, if there is room
for the deepest. -/
theorem memberValues_ofMembers {room : Nat} (before : List (String × Value))
    {members : List (String × Value)}
    (h : ∀ member ∈ members,
      (ofValue member.2).value (some room) = fitting member.2.depth room member.2)
    (hkeys : ((before ++ members).map Prod.fst).Nodup) :
    memberValues (some room) (ofMembers members) .closed before
      = fitting (Value.depthMembers members) room (before ++ members) := by
  induction members generalizing before with
  | nil =>
    rw [List.append_nil]
    rfl
  | cons member rest ih =>
    obtain ⟨key, v⟩ := member
    rw [List.forall_mem_cons] at h
    have hnew : key ∉ before.map Prod.fst := notMem_of_nodup_append hkeys
    have happend : before ++ (key, v) :: rest = (before ++ [(key, v)]) ++ rest := by
      rw [List.append_assoc, List.singleton_append]
    rw [happend] at hkeys ⊢
    rw [ofMembers, memberValues, h.1, Value.depthMembers]
    by_cases hv : v.depth ≤ room
    · rw [fitting_of_le hv, fitting_max hv]
      dsimp only
      rw [Value.insertMember_of_not_mem hnew, ih _ h.2 hkeys]
    · rw [fitting_of_not_le hv, fitting_of_not_le fun hmax => hv (Nat.max_le.mp hmax).1]

/-- **The value of a value's draft is the value**, if there is room for its
containers. -/
theorem value_ofValue {v : Value} (hkeys : v.distinctKeys = true) (room : Nat) :
    (ofValue v).value (some room) = fitting v.depth room v := by
  induction v using Value.containers generalizing room with
  | null | bool | number | string => rfl
  | array items ih =>
    rw [Value.distinctKeys, Value.distinctKeysItems_iff] at hkeys
    cases room with
    | zero => rfl
    | succ room =>
      rw [ofValue, value, enter]
      dsimp only
      rw [itemValues_ofItems fun item hitem => ih item hitem (hkeys item hitem) room, map_fitting,
        Value.depth, fitting_succ]
  | object members ih =>
    rw [Value.distinctKeys_object] at hkeys
    cases room with
    | zero => rfl
    | succ room =>
      rw [ofValue, value, enter]
      dsimp only
      rw [memberValues_ofMembers [] (fun m hm => ih m hm (hkeys.2 m hm) room) hkeys.1, map_fitting,
        Value.depth, fitting_succ, List.nil_append]

/-- What is made of something read was made of something read. -/
theorem exists_of_map_eq_ok {ε α β : Type} {f : α → β} {read : Except ε α} {b : β}
    (h : read.map f = .ok b) : ∃ a, read = .ok a ∧ f a = b := by
  cases read with
  | error _ => cases h
  | ok a => exact ⟨a, rfl, Except.ok.inj h⟩

/-- Room for a container is room for one more than for what it holds. -/
theorem enter_eq_ok {room : Nat} {room' : Option Nat} (h : enter (some room) = .ok room') :
    ∃ inner, room' = some inner ∧ room = inner + 1 := by
  cases room with
  | zero => cases h
  | succ inner =>
    cases h
    exact ⟨inner, rfl, rfl⟩

/-- Members with new keys go behind those before. -/
theorem prefix_of_memberValues {room : Option Nat} {members before vs : List (String × Value)}
    (hkeys : ((before ++ members).map Prod.fst).Nodup)
    (h : memberValues room (Value.rereadMembers members) .closed before = .ok vs) :
    before <+: vs := by
  induction members generalizing before with
  | nil =>
    cases h
    exact List.prefix_rfl
  | cons member rest ih =>
    obtain ⟨key, v⟩ := member
    rw [Value.rereadMembers, memberValues] at h
    split at h
    · cases h
    · rename_i w _
      have hnew : key ∉ before.map Prod.fst := notMem_of_nodup_append hkeys
      rw [Value.insertMember_of_not_mem hnew] at h
      have hkeys : ((before ++ [(key, w)] ++ rest).map Prod.fst).Nodup := by
        simpa using hkeys
      exact (List.prefix_append before _).trans (ih hkeys h)

/-- Members that are read as themselves have values that are. -/
theorem value_of_memberValues {room : Option Nat} {members before : List (String × Value)}
    (hkeys : ((before ++ members).map Prod.fst).Nodup)
    (h : memberValues room (Value.rereadMembers members) .closed before
      = .ok (before ++ members)) :
    ∀ member ∈ members, member.2.reread.value room = .ok member.2 := by
  induction members generalizing before with
  | nil => exact nofun
  | cons member rest ih =>
    obtain ⟨key, v⟩ := member
    rw [Value.rereadMembers, memberValues] at h
    split at h
    · cases h
    · rename_i w hw
      have hnew : key ∉ before.map Prod.fst := notMem_of_nodup_append hkeys
      rw [Value.insertMember_of_not_mem hnew] at h
      have hkeys' : ∀ w, ((before ++ [(key, w)] ++ rest).map Prod.fst).Nodup := by
        simpa using hkeys
      -- what was read of this member stands where the member stands
      obtain rfl : w = v := by
        have hprefix := prefix_of_memberValues (hkeys' w) h
        rw [List.prefix_append_right_inj, List.cons_prefix_cons] at hprefix
        exact congrArg Prod.snd hprefix.1
      have hrest := h.trans (congrArg Except.ok (List.append_cons before (key, w) rest))
      exact List.forall_mem_cons.mpr ⟨hw, ih (hkeys' w) hrest⟩

/-- **A value is read as itself only if all its numbers read back.** -/
theorem numbersReadBack_of_value {v : Value} (hkeys : v.distinctKeys = true) {room : Option Nat}
    (h : v.reread.value room = .ok v) : v.NumbersReadBack := by
  induction v using Value.containers generalizing room with
  | null | bool | string => exact fun _ h => absurd h List.not_mem_nil
  | number n =>
    refine List.forall_mem_singleton.mpr ?_
    show n.reread = some n
    rw [Value.reread] at h
    cases hn : n.reread with
    | none =>
      rw [hn] at h
      cases h
    | some m =>
      rw [hn] at h
      cases h
      rfl
  | array items ih =>
    rw [Value.distinctKeys, Value.distinctKeysItems_iff] at hkeys
    rw [Value.reread, value] at h
    split at h
    · cases h
    · rename_i inner _
      obtain ⟨vs, hitems, heq⟩ := exists_of_map_eq_ok h
      obtain rfl := Value.array.inj heq
      refine Value.numbersReadBack_array.mpr ?_
      clear h heq
      induction vs with
      | nil => exact nofun
      | cons item rest ihrest =>
        rw [List.forall_mem_cons] at hkeys ih
        rw [Value.rereadItems, itemValues] at hitems
        split at hitems
        · cases hitems
        · rename_i hitem
          obtain ⟨others, hothers, heq⟩ := exists_of_map_eq_ok hitems
          obtain ⟨rfl, rfl⟩ := List.cons.inj heq
          exact List.forall_mem_cons.mpr
            ⟨ih.1 hkeys.1 hitem, ihrest ih.2 hkeys.2 hothers⟩
  | object members ih =>
    rw [Value.distinctKeys_object] at hkeys
    rw [Value.reread, value] at h
    split at h
    · cases h
    · obtain ⟨vs, hmembers, heq⟩ := exists_of_map_eq_ok h
      obtain rfl := Value.object.inj heq
      have hvalues := value_of_memberValues (List.nil_append vs ▸ hkeys.1) hmembers
      exact Value.numbersReadBack_object.mpr fun member hmember =>
        ih member hmember (hkeys.2 member hmember) (hvalues member hmember)

/-- The draft of a text from which a draft can be read. -/
theorem ofText_eq {text : String} {draft : Draft} {rest : List Char}
    (h : (Scan.value text.toList).read? = some (draft, rest)) :
    ofText text = (draft, !(Scan.skipBlank rest).isEmpty) := by
  obtain ⟨_, heq⟩ := Scan.DraftRead.read?_eq_some h
  unfold ofText
  rw [heq]

/-! ## Whole texts -/

/-- **A text that is read as a value** is read so with nothing behind it but maybe a
gap. -/
theorem ofText_of_isTextOf {text gap : List Char} {v : Value} (h : Scan.IsTextOf text v)
    (hgap : IsGap gap) : ofText (String.ofList (text ++ gap)) = (v.reread, false) := by
  have hnone : BeginsWithout continuesNumber [] := nofun
  have hend : BeginsWithout continuesNumber gap := by
    rw [← List.append_nil gap]
    exact hgap.beginsWithout_append hnone
  have hrest : Scan.skipBlank gap = [] := by
    rw [← List.append_nil gap]
    exact hgap.skipBlank_append []
  have hstart : Scan.skipBlank (String.ofList (text ++ gap)).toList = text ++ gap := by
    rw [String.toList_ofList, h.skipBlank_append]
  rw [ofText_eq (h.read _ gap hstart hend), hrest]
  rfl

/-- **The text of a value is read as the value**, its numbers read again, with
nothing behind it. -/
theorem ofText_write {layout : Layout} (hlayout : layout.Readable) (v : Value) :
    ofText (String.ofList (v.write layout)) = (v.reread, false) := by
  rw [← List.append_nil (v.write layout)]
  exact ofText_of_isTextOf (Scan.isTextOf_write hlayout v) nofun

end Draft

/-- The value of a text that is read as a value. -/
theorem Value.ofText_of_draft {text : String} {v : Value} (hkeys : v.distinctKeys = true)
    (hnumbers : v.NumbersReadBack) (h : Draft.ofText text = (v.reread, false)) :
    Value.ofText text = fitting v.depth nestingLimit v := by
  unfold Value.ofText
  rw [h, Value.reread_eq hnumbers]
  dsimp only
  rw [Draft.value_ofValue hkeys]
  by_cases hdepth : v.depth ≤ nestingLimit
  · rw [fitting_of_le hdepth]
    rfl
  · rw [fitting_of_not_le hdepth]

/-- **The text of a value reads back as the value** if it nests no deeper than
the limit, and is refused otherwise. -/
theorem Value.ofText_write {layout : Layout} (hlayout : layout.Readable) {v : Value}
    (hkeys : v.distinctKeys = true) (hnumbers : v.NumbersReadBack) :
    Value.ofText (String.ofList (v.write layout)) = fitting v.depth nestingLimit v :=
  Value.ofText_of_draft hkeys hnumbers (Draft.ofText_write hlayout v)

/-- **A value that fits** where values may be read from texts reads back. -/
theorem Value.Fits.ofText_write {layout : Layout} (hlayout : layout.Readable) {v : Value}
    (h : v.Fits nestingLimit) : Value.ofText (String.ofList (v.write layout)) = .ok v :=
  (Value.ofText_write hlayout h.keys h.numbers).trans (fitting_of_le h.depth v)

/-! ## One item a line -/

/-- The beginning of a line is a gap. -/
theorem Value.isGap_newLine (depth : Nat) : IsGap (newLine depth) :=
  List.forall_mem_cons.mpr ⟨.inr rfl, fun _ hc => .inl (List.eq_of_mem_replicate hc)⟩

namespace Scan

/-- How a container that stands at a depth is set out with one item a line. -/
def Gaps.indented (depth : Nat) : Gaps :=
  ⟨Value.newLine (depth + 1), Value.newLine (depth + 1), [' '], Value.newLine depth⟩

theorem Gaps.readable_indented (depth : Nat) : (Gaps.indented depth).Readable :=
  ⟨Value.isGap_newLine _, Value.isGap_newLine _, List.forall_mem_singleton.mpr (.inl rfl),
    Value.isGap_newLine _⟩

/-- The items of an array on their lines. -/
theorem writeIndentedItems_eq (depth : Nat) (items : List Value) :
    Value.writeIndentedItems depth items
      = (Gaps.indented depth).restOfItems (Value.writeIndented (depth + 1)) items := by
  induction items with
  | nil => rfl
  | cons item rest ih =>
    rw [Value.writeIndentedItems, Gaps.restOfItems, ih, List.append_assoc]
    rfl

/-- The members of an object on their lines. -/
theorem writeIndentedMembers_eq (depth : Nat) (members : List (String × Value)) :
    Value.writeIndentedMembers depth members
      = (Gaps.indented depth).restOfMembers .compact (Value.writeIndented (depth + 1))
          members := by
  induction members with
  | nil => rfl
  | cons member rest ih =>
    obtain ⟨key, v⟩ := member
    rw [Value.writeIndentedMembers, Gaps.restOfMembers, ih]
    simp only [List.append_assoc]
    rfl

/-- **A text with one item a line is read as the value**, at whatever depth it
stands. -/
theorem isTextOf_indented (v : Value) :
    ∀ depth, IsTextOf (Value.writeIndented depth v) v := by
  induction v using Value.containers with
  | array items ih =>
    intro depth
    cases items with
    | nil => exact isTextOf_write Layout.readable_compact (.array [])
    | cons item more =>
      rw [Value.writeIndented, writeIndentedItems_eq, List.append_assoc]
      exact isTextOf_array (Gaps.readable_indented depth) fun v hv => ih v hv (depth + 1)
  | object members ih =>
    intro depth
    cases members with
    | nil => exact isTextOf_write Layout.readable_compact (.object [])
    | cons member more =>
      obtain ⟨key, v⟩ := member
      rw [Value.writeIndented, writeIndentedMembers_eq]
      simp only [List.append_assoc]
      exact isTextOf_object Layout.readable_compact (Gaps.readable_indented depth)
        fun member hmember => ih member hmember (depth + 1)
  | null => exact fun _ => isTextOf_write Layout.readable_compact .null
  | bool b => exact fun _ => isTextOf_write Layout.readable_compact (.bool b)
  | number n => exact fun _ => isTextOf_write Layout.readable_compact (.number n)
  | string s => exact fun _ => isTextOf_write Layout.readable_compact (.string s)

end Scan

/-- **The lines of a value read back as the value**, the end of the last line
included, if it fits where values may be read from texts. -/
theorem Value.Fits.ofText_indented {v : Value} (h : v.Fits nestingLimit) :
    Value.ofText (v.indented ++ "\n") = .ok v := by
  have hgap : IsGap ['\n'] := List.forall_mem_singleton.mpr (.inr rfl)
  have hdraft : Draft.ofText (v.indented ++ "\n") = (v.reread, false) := by
    rw [Value.indented, show "\n" = String.ofList ['\n'] from rfl, ← String.ofList_append]
    exact Draft.ofText_of_isTextOf (Scan.isTextOf_indented v 0) hgap
  exact (Value.ofText_of_draft h.keys h.numbers hdraft).trans (fitting_of_le h.depth v)

/-- A value is read from its text only if all its numbers read back. -/
theorem Value.numbersReadBack_of_ofText {text : String} {v : Value} (hkeys : v.distinctKeys = true)
    (hdraft : Draft.ofText text = (v.reread, false)) (h : Value.ofText text = .ok v) :
    v.NumbersReadBack := by
  unfold Value.ofText at h
  rw [hdraft] at h
  dsimp only at h
  split at h
  · cases h
  · rename_i w hw
    cases h
    exact Draft.numbersReadBack_of_value hkeys hw

/-- **A value survives being written**: its spaced text is one of printable
ASCII and the delete character, and both texts read back as the value if its
numbers do, which is asked of doubles only. -/
structure Value.Survives (v : Value) : Prop where
  plain : ∀ b ∈ Text.Utf8.bytes v.spaced, 0x20 ≤ b.toNat ∧ b.toNat ≤ 0x7f
  /-- The bytes written are those of a text. -/
  decoded : Text.Utf8.decode (Text.Utf8.bytes v.spaced) = .ok v.spaced
  spaced : Value.ofText v.spaced = .ok v ↔ v.NumbersReadBack
  compact : Value.ofText v.compact = .ok v ↔ v.NumbersReadBack
  /-- Whatever becomes of doubles, both texts are read as the same. -/
  same : Value.ofText v.spaced = Value.ofText v.compact

/-- **Every value survives** that nests no deeper than texts may, its objects
repeating no key. Nothing else is asked of its strings and keys. -/
theorem Value.survives {v : Value} (hkeys : v.distinctKeys = true) (hdepth : v.depth ≤ 127) :
    v.Survives where
  plain := Text.Utf8.plain_bytes v.isPlain_spaced
  decoded := Text.Utf8.decode_bytes v.spaced
  spaced := ⟨numbersReadBack_of_ofText hkeys (Draft.ofText_write Layout.readable_spaced v),
    fun hnumbers => Value.Fits.ofText_write Layout.readable_spaced ⟨hkeys, hnumbers, hdepth⟩⟩
  compact := ⟨numbersReadBack_of_ofText hkeys (Draft.ofText_write Layout.readable_compact v),
    fun hnumbers => Value.Fits.ofText_write Layout.readable_compact ⟨hkeys, hnumbers, hdepth⟩⟩
  same := by
    unfold Value.ofText Value.spaced Value.compact
    rw [Draft.ofText_write Layout.readable_spaced, Draft.ofText_write Layout.readable_compact]

/-- A value with keys and strings beyond ASCII and beyond sixteen bits, control
characters, both kinds of numbers, and empty containers. -/
theorem Value.survives_nested :
    let v : Value := .object [
      ("grüße", .array [.number (.integer ⟨-5, by decide, by decide⟩),
        .number (.double (.zero true) (by decide)), .string "a\n\x7f🙂", .null]),
      ("", .object [("grüße", .bool true), ("\"\\", .array [])])]
    (v.distinctKeys = true ∧ v.depth = 3 ∧ v.NumbersReadBack) ∧ v.Survives :=
  ⟨⟨by decide, by decide, by decide +kernel⟩, Value.survives (by decide) (by decide)⟩

end CallScope.Json
