import CallScope.Proofs.StringText

/-!
# JSON texts that read back

The text of a value, in any layout that can be read, is read as the draft of
the value with its numbers read again (`Value.reread`), whatever follows it
(`Scan.isTextOf_write`). One lemma says what is read where a scalar, an empty
container, the last item or member or another one before it stands; lists of
items and members follow by induction, and values by induction over what they
contain (`Value.containers`). Scalars are what `Scan.scalar_number` and
`Scan.string_flatMap` are about.

How a container is set out does not matter, as long as there are only blanks
between its parts (`Scan.Gaps`): whatever the texts of its items are, if they
are read as the items, the text of the container is read as the container
(`Scan.isTextOf_array`, `Scan.isTextOf_object`).

What a text begins with decides how it is read, so that the texts of values
are told from blanks and from what ends a container (`exists_write`).
-/

namespace CallScope.Json

/-! ## Induction over values -/

/-- **Induction over values**: what holds of a container if it holds of all
that it contains holds of every value. -/
theorem Value.containers {motive : Value → Prop} (null : motive .null)
    (bool : ∀ b, motive (.bool b)) (number : ∀ n, motive (.number n))
    (string : ∀ s, motive (.string s))
    (array : ∀ items, (∀ item ∈ items, motive item) → motive (.array items))
    (object : ∀ members, (∀ member ∈ members, motive member.2) → motive (.object members)) :
    ∀ v, motive v
  | .null => null
  | .bool b => bool b
  | .number n => number n
  | .string s => string s
  | .array items => array items fun item _ =>
    Value.containers null bool number string array object item
  | .object members => object members fun member _ =>
    Value.containers null bool number string array object member.2
termination_by v => sizeOf v
decreasing_by
  · rename_i h
    have := List.sizeOf_lt_of_mem h
    simp only [Value.array.sizeOf_spec]
    omega
  · rename_i h
    have := List.sizeOf_lt_of_mem h
    obtain ⟨key, value⟩ := member
    simp only [Value.object.sizeOf_spec, Prod.mk.sizeOf_spec] at *
    omega

/-! ## Gaps -/

open Scan

/-- **A gap**: blanks that may stand between the parts of a container. -/
def IsGap (gap : List Char) : Prop := ∀ c ∈ gap, c = ' ' ∨ c = '\n'

/-- Gaps are skipped. -/
theorem IsGap.skipBlank_append {gap : List Char} (h : IsGap gap) (s : List Char) :
    skipBlank (gap ++ s) = skipBlank s := by
  induction gap with
  | nil => rfl
  | cons c gap ih =>
    obtain ⟨hc, hgap⟩ := List.forall_mem_cons.mp h
    rcases hc with rfl | rfl <;> exact ih hgap

/-- No number goes on with a gap. -/
theorem IsGap.beginsWithout_append {gap s : List Char} (h : IsGap gap)
    (hs : BeginsWithout continuesNumber s) : BeginsWithout continuesNumber (gap ++ s) := by
  cases gap with
  | nil => exact hs
  | cons c gap =>
    intro d hd
    cases hd
    rcases h c List.mem_cons_self with rfl | rfl <;> rfl

/-- A character with which no number goes on. -/
theorem beginsWithout_cons {c : Char} (h : continuesNumber c = false) (rest : List Char) :
    BeginsWithout continuesNumber (c :: rest) := fun d hd => by
  cases hd
  exact h

/-! ## Layouts that can be read -/

/-- **A layout that can be read**: a comma and a colon, maybe with a gap behind
them, and strings that read back. -/
structure Layout.Readable (layout : Layout) : Prop where
  comma : ∃ gap, layout.comma = ',' :: gap ∧ IsGap gap
  colon : ∃ gap, layout.colon = ':' :: gap ∧ IsGap gap
  contents : ∀ (s : String) (rest : List Char) (bound : Nat)
    (h : (layout.contents [] s.toList ++ '"' :: rest).length < bound),
    ∃ h', Scan.string bound true [] (layout.contents [] s.toList ++ '"' :: rest) h
      = .done (some s) rest h'

/-- Strings read back if the characters of fragments do. -/
theorem Layout.readable_contents {layout : Layout} {char : Char → List Char}
    (hfragment : ∀ fragment, layout.fragment fragment = fragment.flatMap char)
    (hchar : ∀ c, forcedEscape? c = none → ReadsAs (char c) c)
    (s : String) (rest : List Char) (bound : Nat)
    (h : (layout.contents [] s.toList ++ '"' :: rest).length < bound) :
    ∃ h', Scan.string bound true [] (layout.contents [] s.toList ++ '"' :: rest) h
      = .done (some s) rest h' := by
  have hcontents : layout.contents [] s.toList = s.toList.flatMap (charText char) :=
    contents_eq hfragment [] s.toList
  revert h
  rw [hcontents]
  intro h
  obtain ⟨h', heq⟩ := string_flatMap (readsAs_charText hchar) s.toList [] rest bound h
  exact ⟨h', by rw [heq, List.reverse_nil, List.nil_append, String.ofList_toList]⟩

theorem Layout.readable_compact : Layout.compact.Readable where
  comma := ⟨[], rfl, nofun⟩
  colon := ⟨[], rfl, nofun⟩
  contents := readable_contents fragment_compact fun _ => readsAs_unforced

theorem Layout.readable_spaced : Layout.spaced.Readable where
  comma := ⟨[' '], rfl, List.forall_mem_singleton.mpr (.inl rfl)⟩
  colon := ⟨[' '], rfl, List.forall_mem_singleton.mpr (.inl rfl)⟩
  contents := readable_contents fragment_spaced fun _ => readsAs_asciiChar

/-! ## What a text begins with -/

/-- Whether a value may begin with a character. -/
def beginsValue (c : Char) : Bool :=
  beginsNumber c || ['n', 't', 'f', '"', '[', '\x7b'].contains c

/-- Nothing is skipped before a value, which begins with no blank. -/
theorem skipBlank_cons {c : Char} (h : beginsValue c = true) (r : List Char) :
    skipBlank (c :: r) = c :: r := by
  have hblank : (c == ' ' || c == '\n' || c == '\t' || c == '\r') = false := by
    simp only [Bool.or_eq_false_iff, beq_eq_false_iff_ne]
    exact ⟨⟨⟨ne_of_kind h rfl, ne_of_kind h rfl⟩, ne_of_kind h rfl⟩,
      ne_of_kind h rfl⟩
  exact List.dropWhile_cons_of_neg (by rw [hblank]; decide)

/-- **The text of a value begins as values do.** -/
theorem exists_write (layout : Layout) (v : Value) :
    ∃ c r, v.write layout = c :: r ∧ beginsValue c = true := by
  cases v with
  | null => exact ⟨_, _, rfl, rfl⟩
  | bool b => cases b <;> exact ⟨_, _, rfl, rfl⟩
  | number n =>
    have hend : BeginsWithout continuesNumber [] := fun _ h => by cases h
    obtain ⟨c, r, hcons, hbegins, -⟩ := scalar_number n hend
    rw [List.append_nil] at hcons
    exact ⟨c, r, hcons, Bool.or_eq_true_iff.mpr (.inl hbegins)⟩
  | string s => exact ⟨_, _, rfl, rfl⟩
  | array items => cases items <;> exact ⟨_, _, rfl, rfl⟩
  | object members => cases members <;> exact ⟨_, _, rfl, rfl⟩

/-! ## What texts are read as -/

namespace Value

mutual
/-- **What the text of a value is read as**: its draft, in which every number
is what its own text is read as. -/
def reread : Value → Draft
  | .null => .null
  | .bool b => .bool b
  | .number n => .number n.reread
  | .string s => .string (some s)
  | .array items => .array (rereadItems items) .closed
  | .object members => .object (rereadMembers members) .closed

/-- What the texts of an array's items are read as. -/
def rereadItems : List Value → List Draft
  | [] => []
  | item :: rest => reread item :: rereadItems rest

/-- What the texts of an object's members are read as. -/
def rereadMembers : List (String × Value) → List (Option String × Draft)
  | [] => []
  | (key, value) :: rest => (some key, reread value) :: rereadMembers rest
end

end Value

/-! ## Reading values -/

namespace Scan

/-- A string is read from its opening quote on. -/
theorem value_quote {s r rest : List Char} {text : String} (h : skipBlank s = '"' :: r)
    (hstring : ∀ bound (hlength : r.length < bound),
      ∃ h', string bound true [] r hlength = .done (some text) rest h') :
    (value s).read? = some (.string (some text), rest) := by
  unfold value
  split
  · rename_i hnone
    cases hnone.symm.trans h
  · rename_i heq
    cases heq.symm.trans h
    obtain ⟨_, hread⟩ := hstring s.length (by
      have := length_skipBlank_le s
      rw [h, List.length_cons] at this
      omega)
    rw [if_pos rfl, hread]
    rfl

/-- A literal or a number is read on its own. -/
theorem value_scalar {s r : List Char} {c : Char} (h : skipBlank s = c :: r)
    (hquote : c ≠ '"') (hbracket : c ≠ '[') (hbrace : c ≠ '\x7b') :
    (value s).read? = (scalar c r).read? := by
  unfold value
  split
  · rename_i hnone
    cases hnone.symm.trans h
  · rename_i heq
    cases heq.symm.trans h
    rw [if_neg hquote, if_neg hbracket, if_neg hbrace]
    cases scalar c r <;> rfl

/-- What is read comes with a proof about what is left. -/
theorem DraftRead.read?_eq_some {bound : Nat} {result : DraftRead bound} {draft : Draft}
    {rest : List Char} (h : result.read? = some (draft, rest)) :
    ∃ h', result = .done draft rest h' := by
  cases result with
  | stuck _ => cases h
  | done d r shorter =>
    cases h
    exact ⟨shorter, rfl⟩

/-- An array with nothing in it. -/
theorem value_emptyArray {s r rest : List Char} (h : skipBlank s = '[' :: r)
    (hend : skipBlank r = ']' :: rest) : (value s).read? = some (.array [] .closed, rest) := by
  unfold value
  split
  · rename_i hnone
    cases hnone.symm.trans h
  · rename_i heq
    cases heq.symm.trans h
    rw [if_neg (by decide), if_pos rfl]
    split
    · rename_i hnone
      cases hnone.symm.trans hend
    · rename_i heq
      cases heq.symm.trans hend
      rfl
    · rename_i hother
      exact absurd hend (hother rest)

/-- An array with items in it. -/
theorem value_array {s r t : List Char} {c : Char} (h : skipBlank s = '[' :: r)
    (hitem : skipBlank r = c :: t) (hc : c ≠ ']') :
    ∃ hlength, (value s).read? = (items s.length [] r hlength).read? := by
  have hlength : r.length < s.length := by
    have := length_skipBlank_le s
    rw [h, List.length_cons] at this
    omega
  refine ⟨hlength, ?_⟩
  unfold value
  split
  · rename_i hnone
    cases hnone.symm.trans h
  · rename_i heq
    cases heq.symm.trans h
    rw [if_neg (by decide), if_pos rfl]
    split
    · rename_i hnone
      cases hnone.symm.trans hitem
    · rename_i heq
      cases heq.symm.trans hitem
      exact absurd rfl hc
    · rfl

/-- An object with nothing in it. -/
theorem value_emptyObject {s r rest : List Char} (h : skipBlank s = '\x7b' :: r)
    (hend : skipBlank r = '\x7d' :: rest) :
    (value s).read? = some (.object [] .closed, rest) := by
  unfold value
  split
  · rename_i hnone
    cases hnone.symm.trans h
  · rename_i heq
    cases heq.symm.trans h
    rw [if_neg (by decide), if_neg (by decide), if_pos rfl]
    split
    · rename_i hnone
      cases hnone.symm.trans hend
    · rename_i heq
      cases heq.symm.trans hend
      rfl
    · rename_i heq
      cases heq.symm.trans hend
    · rename_i hother _
      exact absurd hend (hother rest)

/-- An object with members in it. -/
theorem value_object {s r key : List Char} (h : skipBlank s = '\x7b' :: r)
    (hkey : skipBlank r = '"' :: key) :
    ∃ hlength, (value s).read? = (members s.length [] key hlength).read? := by
  have hlength : key.length < s.length := by
    have hs := length_skipBlank_le s
    have hr := length_skipBlank_le r
    rw [h, List.length_cons] at hs
    rw [hkey, List.length_cons] at hr
    omega
  refine ⟨hlength, ?_⟩
  unfold value
  split
  · rename_i hnone
    cases hnone.symm.trans h
  · rename_i heq
    cases heq.symm.trans h
    rw [if_neg (by decide), if_neg (by decide), if_pos rfl]
    split
    · rename_i hnone
      cases hnone.symm.trans hkey
    · rename_i heq
      cases heq.symm.trans hkey
    · rename_i heq
      cases heq.symm.trans hkey
      rfl
    · rename_i hother
      exact absurd hkey (hother key)

section Items

variable {bound : Nat} {before : List Draft} {s s₁ : List Char} {item : Draft}
  (h : s.length < bound) (hitem : (value s).read? = some (item, s₁))

include hitem

/-- The last item of an array. -/
theorem items_last {rest : List Char} (hend : skipBlank s₁ = ']' :: rest) :
    (items bound before s h).read? = some (.array (item :: before).reverse .closed, rest) := by
  obtain ⟨_, heq⟩ := DraftRead.read?_eq_some hitem
  unfold items
  rw [heq]
  dsimp only
  split
  · rename_i hnone
    cases hnone.symm.trans hend
  · rename_i heq
    cases heq.symm.trans hend
    rw [if_pos rfl]
    rfl

/-- An item before another. -/
theorem items_more {s₂ t : List Char} {c : Char} (hcomma : skipBlank s₁ = ',' :: s₂)
    (hnext : skipBlank s₂ = c :: t) (hc : c ≠ ']') :
    ∃ h', (items bound before s h).read? = (items bound (item :: before) s₂ h').read? := by
  obtain ⟨hshorter, heq⟩ := DraftRead.read?_eq_some hitem
  have hlength : s₂.length < bound := by
    have := length_skipBlank_le s₁
    rw [hcomma, List.length_cons] at this
    omega
  refine ⟨hlength, ?_⟩
  rw [items, heq]
  dsimp only
  split
  · rename_i hnone
    cases hnone.symm.trans hcomma
  · rename_i heq
    cases heq.symm.trans hcomma
    rw [if_neg (by decide), if_pos rfl]
    split
    · rename_i hnone
      cases hnone.symm.trans hnext
    · rename_i heq
      cases heq.symm.trans hnext
      exact absurd rfl hc
    · rfl

end Items

section Members

variable {bound : Nat} {before : List (Option String × Draft)} {s s₁ s₂ s₃ : List Char}
  {key : String} {draft : Draft} (h : s.length < bound)
  (hkey : ∀ bound (hlength : s.length < bound),
    ∃ h', string bound true [] s hlength = .done (some key) s₁ h')
  (hcolon : skipBlank s₁ = ':' :: s₂) (hvalue : (value s₂).read? = some (draft, s₃))

include hkey hcolon hvalue

/-- The last member of an object. -/
theorem members_last {rest : List Char} (hend : skipBlank s₃ = '\x7d' :: rest) :
    (members bound before s h).read?
      = some (.object ((some key, draft) :: before).reverse .closed, rest) := by
  obtain ⟨_, hstring⟩ := hkey (s.length + 1) (Nat.lt_succ_self _)
  obtain ⟨_, hdraft⟩ := DraftRead.read?_eq_some hvalue
  unfold members
  rw [hstring]
  dsimp only
  split
  · rename_i hnone
    cases hnone.symm.trans hcolon
  · rename_i heq
    cases heq.symm.trans hcolon
    rw [if_pos rfl, hdraft]
    dsimp only
    split
    · rename_i hnone
      cases hnone.symm.trans hend
    · rename_i heq
      cases heq.symm.trans hend
      rw [if_pos rfl]
      rfl

/-- A member before another. -/
theorem members_more {s₄ s₅ : List Char} (hcomma : skipBlank s₃ = ',' :: s₄)
    (hnext : skipBlank s₄ = '"' :: s₅) :
    ∃ h', (members bound before s h).read?
      = (members bound ((some key, draft) :: before) s₅ h').read? := by
  obtain ⟨hkeyed, hstring⟩ := hkey (s.length + 1) (Nat.lt_succ_self _)
  obtain ⟨hshorter, hdraft⟩ := DraftRead.read?_eq_some hvalue
  have hlength : s₅.length < bound := by
    have hs₁ := length_skipBlank_le s₁
    have hs₃ := length_skipBlank_le s₃
    have hs₄ := length_skipBlank_le s₄
    rw [hcolon, List.length_cons] at hs₁
    rw [hcomma, List.length_cons] at hs₃
    rw [hnext, List.length_cons] at hs₄
    omega
  refine ⟨hlength, ?_⟩
  rw [members, hstring]
  dsimp only
  split
  · rename_i hnone
    cases hnone.symm.trans hcolon
  · rename_i heq
    cases heq.symm.trans hcolon
    rw [if_pos rfl, hdraft]
    dsimp only
    split
    · rename_i hnone
      cases hnone.symm.trans hcomma
    · rename_i heq
      cases heq.symm.trans hcomma
      rw [if_neg (by decide), if_pos rfl]
      split
      · rename_i hnone
        cases hnone.symm.trans hnext
      · rename_i heq
        cases heq.symm.trans hnext
        rfl
      · rename_i hother
        exact absurd hnext (hother s₅)

end Members

/-! ## Texts of containers -/

/-- **A text that is read as a value**: it begins as values do, and whatever
follows it, it is read as the draft of the value with its numbers read again. -/
structure IsTextOf (text : List Char) (v : Value) : Prop where
  begins : ∃ c r, text = c :: r ∧ beginsValue c = true
  read : ∀ s rest, skipBlank s = text ++ rest → BeginsWithout continuesNumber rest →
    (value s).read? = some (v.reread, rest)

/-- Nothing is skipped before a text that is read as a value. -/
theorem IsTextOf.skipBlank_append {text : List Char} {v : Value} (h : IsTextOf text v)
    (rest : List Char) : skipBlank (text ++ rest) = text ++ rest := by
  obtain ⟨c, r, rfl, hbegins⟩ := h.begins
  exact skipBlank_cons hbegins _

/-- **How a container is set out**: what stands behind the opening bracket, behind
a comma, behind a colon and before the closing bracket. -/
structure Gaps where
  opening : List Char
  comma : List Char
  colon : List Char
  closing : List Char

namespace Gaps

/-- **A container that can be read** is set out with gaps. -/
structure Readable (gaps : Gaps) : Prop where
  opening : IsGap gaps.opening
  comma : IsGap gaps.comma
  colon : IsGap gaps.colon
  closing : IsGap gaps.closing

/-- The items of an array behind the first one, and the bracket. -/
def restOfItems (gaps : Gaps) (text : Value → List Char) : List Value → List Char
  | [] => gaps.closing ++ [']']
  | item :: rest => ',' :: (gaps.comma ++ (text item ++ gaps.restOfItems text rest))

/-- The members of an object behind the first one, and the bracket. -/
def restOfMembers (gaps : Gaps) (layout : Layout) (text : Value → List Char) :
    List (String × Value) → List Char
  | [] => gaps.closing ++ ['\x7d']
  | (key, v) :: rest => ',' :: (gaps.comma ++ (layout.quote key
      ++ ':' :: (gaps.colon ++ (text v ++ gaps.restOfMembers layout text rest))))

end Gaps

section Containers

variable {gaps : Gaps} {text : Value → List Char}

/-- The rest of an array is read item by item. -/
theorem items_restOfItems (hgaps : gaps.Readable) {bound : Nat} {item : Value}
    {more : List Value} (hitem : IsTextOf (text item) item)
    (hmore : ∀ v ∈ more, IsTextOf (text v) v) (before : List Draft) {s rest : List Char}
    (h : s.length < bound)
    (hs : skipBlank s = text item ++ (gaps.restOfItems text more ++ rest)) :
    (items bound before s h).read?
      = some (.array (before.reverse ++ Value.rereadItems (item :: more)) .closed, rest) := by
  induction more generalizing item before s with
  | nil =>
    rw [Gaps.restOfItems, List.append_assoc] at hs
    have hend := hgaps.closing.beginsWithout_append (beginsWithout_cons (c := ']') rfl rest)
    rw [items_last h (hitem.read s _ hs hend) (hgaps.closing.skipBlank_append _),
      List.reverse_cons]
    rfl
  | cons next more ih =>
    have hnext := hmore next List.mem_cons_self
    obtain ⟨c, r, htext, hbegins⟩ := hnext.begins
    have hs₁ : gaps.restOfItems text (next :: more) ++ rest
        = ',' :: (gaps.comma ++ (text next ++ (gaps.restOfItems text more ++ rest))) := by
      rw [Gaps.restOfItems, List.cons_append, List.append_assoc, List.append_assoc]
    rw [hs₁] at hs
    have hs₂ := (hgaps.comma.skipBlank_append _).trans
      (hnext.skipBlank_append (gaps.restOfItems text more ++ rest))
    obtain ⟨h', heq⟩ := items_more h (hitem.read s _ hs (beginsWithout_cons rfl _)) rfl
      (hs₂.trans (congrArg (· ++ _) htext)) (ne_of_kind hbegins rfl)
    rw [heq, ih hnext (fun v hv => hmore v (List.mem_cons_of_mem _ hv))
      (item.reread :: before) h' hs₂, List.reverse_cons, List.append_assoc]
    rfl

/-- **A text is read as an array** if those of the items are read as the items. -/
theorem isTextOf_array (hgaps : gaps.Readable) {item : Value} {more : List Value}
    (h : ∀ v ∈ item :: more, IsTextOf (text v) v) :
    IsTextOf ('[' :: (gaps.opening ++ (text item ++ gaps.restOfItems text more)))
      (.array (item :: more)) where
  begins := ⟨_, _, rfl, rfl⟩
  read s rest hs _ := by
    obtain ⟨hitem, hmore⟩ := List.forall_mem_cons.mp h
    obtain ⟨c, r, htext, hbegins⟩ := hitem.begins
    rw [List.cons_append, List.append_assoc, List.append_assoc] at hs
    have hitems := (hgaps.opening.skipBlank_append _).trans
      (hitem.skipBlank_append (gaps.restOfItems text more ++ rest))
    obtain ⟨hlength, heq⟩ := value_array hs (hitems.trans (congrArg (· ++ _) htext))
      (ne_of_kind hbegins rfl)
    rw [heq, items_restOfItems hgaps hitem hmore [] hlength hitems]
    rfl

variable {layout : Layout}

/-- What the text of a member behind the opening quote reads as. -/
theorem string_member (hlayout : layout.Readable) (hgaps : gaps.Readable) (key : String)
    {v : Value} (hv : IsTextOf (text v) v) {rest : List Char}
    (hrest : BeginsWithout continuesNumber rest) :
    ∃ s₁ s₂,
      (∀ (bound : Nat) (h : (layout.contents [] key.toList
            ++ '"' :: ':' :: (gaps.colon ++ (text v ++ rest))).length < bound),
          ∃ h', string bound true [] _ h = .done (some key) s₁ h')
        ∧ skipBlank s₁ = ':' :: s₂ ∧ (value s₂).read? = some (v.reread, rest) :=
  ⟨_, gaps.colon ++ (text v ++ rest), hlayout.contents key _, rfl,
    hv.read _ rest ((hgaps.colon.skipBlank_append _).trans (hv.skipBlank_append rest)) hrest⟩

/-- The rest of an object is read member by member. -/
theorem members_restOfMembers (hlayout : layout.Readable) (hgaps : gaps.Readable) {bound : Nat}
    {key : String} {v : Value} {more : List (String × Value)} (hv : IsTextOf (text v) v)
    (hmore : ∀ member ∈ more, IsTextOf (text member.2) member.2)
    (before : List (Option String × Draft)) {rest : List Char}
    (h : (layout.contents [] key.toList ++ '"' :: ':' :: (gaps.colon
      ++ (text v ++ (gaps.restOfMembers layout text more ++ rest)))).length < bound) :
    (members bound before _ h).read?
      = some (.object (before.reverse ++ Value.rereadMembers ((key, v) :: more)) .closed,
          rest) := by
  induction more generalizing key v before with
  | nil =>
    have hclosing : gaps.restOfMembers layout text [] ++ rest
        = gaps.closing ++ '\x7d' :: rest := List.append_assoc _ _ _
    revert h
    rw [hclosing]
    intro h
    have hend := hgaps.closing.beginsWithout_append (beginsWithout_cons (c := '\x7d') rfl rest)
    obtain ⟨s₁, s₂, hkey, hs₁, hs₂⟩ := string_member hlayout hgaps key hv hend
    refine (members_last h hkey hs₁ hs₂ (hgaps.closing.skipBlank_append _)).trans ?_
    rw [List.reverse_cons]
    rfl
  | cons next more ih =>
    obtain ⟨nextKey, next⟩ := next
    have hmembers : gaps.restOfMembers layout text ((nextKey, next) :: more) ++ rest
        = ',' :: (gaps.comma ++ '"' :: (layout.contents [] nextKey.toList ++ '"' :: ':' ::
          (gaps.colon ++ (text next ++ (gaps.restOfMembers layout text more ++ rest))))) := by
      rw [Gaps.restOfMembers, Layout.quote]
      simp only [List.cons_append, List.append_assoc, List.nil_append]
    revert h
    rw [hmembers]
    intro h
    obtain ⟨s₁, s₂, hkey, hs₁, hs₂⟩ :=
      string_member hlayout hgaps key hv (beginsWithout_cons (c := ',') rfl _)
    obtain ⟨h', heq⟩ := members_more h hkey hs₁ hs₂ rfl (hgaps.comma.skipBlank_append _)
    rw [heq, ih (hmore _ List.mem_cons_self) (fun m hm => hmore m (List.mem_cons_of_mem _ hm))
      ((some key, v.reread) :: before) h', List.reverse_cons, List.append_assoc]
    rfl

/-- **A text is read as an object** if those of the members' values are read as these. -/
theorem isTextOf_object (hlayout : layout.Readable) (hgaps : gaps.Readable) {key : String}
    {v : Value} {more : List (String × Value)}
    (h : ∀ member ∈ (key, v) :: more, IsTextOf (text member.2) member.2) :
    IsTextOf ('\x7b' :: (gaps.opening ++ (layout.quote key ++ ':' :: (gaps.colon
      ++ (text v ++ gaps.restOfMembers layout text more))))) (.object ((key, v) :: more)) where
  begins := ⟨_, _, rfl, rfl⟩
  read s rest hs _ := by
    obtain ⟨hv, hmore⟩ := List.forall_mem_cons.mp h
    have hs' : skipBlank s = '\x7b' :: (gaps.opening ++ '"' :: (layout.contents [] key.toList
        ++ '"' :: ':' :: (gaps.colon
          ++ (text v ++ (gaps.restOfMembers layout text more ++ rest))))) := by
      rw [hs, Layout.quote]
      simp only [List.cons_append, List.append_assoc, List.nil_append]
    obtain ⟨hlength, heq⟩ := value_object hs' (hgaps.opening.skipBlank_append _)
    rw [heq, members_restOfMembers hlayout hgaps hv hmore [] hlength]
    rfl

end Containers

/-! ## Texts of values -/

variable {layout : Layout}

/-- The items of an array in a layout, as they are set out. -/
theorem writeItems_eq (gaps : Gaps) (hcomma : layout.comma = ',' :: gaps.comma)
    (hclosing : gaps.closing = []) (items : List Value) :
    Value.writeItems layout items = gaps.restOfItems (Value.write layout) items := by
  induction items with
  | nil => rw [Value.writeItems, Gaps.restOfItems, hclosing, List.nil_append]
  | cons item rest ih =>
    rw [Value.writeItems, Gaps.restOfItems, hcomma, ih, List.append_assoc, List.cons_append]

/-- The members of an object in a layout, as they are set out. -/
theorem writeMembers_eq (gaps : Gaps) (hcomma : layout.comma = ',' :: gaps.comma)
    (hcolon : layout.colon = ':' :: gaps.colon) (hclosing : gaps.closing = [])
    (members : List (String × Value)) :
    Value.writeMembers layout members
      = gaps.restOfMembers layout (Value.write layout) members := by
  induction members with
  | nil => rw [Value.writeMembers, Gaps.restOfMembers, hclosing, List.nil_append]
  | cons member rest ih =>
    obtain ⟨key, v⟩ := member
    rw [Value.writeMembers, Gaps.restOfMembers, hcomma, hcolon, ih]
    simp only [List.cons_append, List.append_assoc]

/-- **The text of a value is read as the value**, its numbers read again. -/
theorem isTextOf_write (hlayout : layout.Readable) (v : Value) : IsTextOf (v.write layout) v := by
  obtain ⟨comma, hcomma, hcommaGap⟩ := hlayout.comma
  obtain ⟨colon, hcolon, hcolonGap⟩ := hlayout.colon
  let gaps : Gaps := ⟨[], comma, colon, []⟩
  have hgaps : gaps.Readable := ⟨nofun, hcommaGap, hcolonGap, nofun⟩
  induction v using Value.containers with
  | null =>
    exact ⟨exists_write layout .null, fun s rest hs hrest =>
      value_scalar hs (by decide) (by decide) (by decide)⟩
  | bool b =>
    refine ⟨exists_write layout (.bool b), fun s rest hs hrest => ?_⟩
    cases b <;> exact value_scalar hs (by decide) (by decide) (by decide)
  | number n =>
    refine ⟨exists_write layout (.number n), fun s rest hs hrest => ?_⟩
    obtain ⟨c, r, hcons, hbegins, hread⟩ := scalar_number n hrest
    rw [value_scalar (hs.trans hcons) (ne_of_kind hbegins rfl) (ne_of_kind hbegins rfl)
      (ne_of_kind hbegins rfl), hread]
    rfl
  | string text =>
    refine ⟨exists_write layout (.string text), fun s rest hs hrest => ?_⟩
    rw [Value.write, Layout.quote, List.cons_append, List.append_assoc] at hs
    exact value_quote hs (hlayout.contents text rest)
  | array items ih =>
    cases items with
    | nil => exact ⟨exists_write layout (.array []), fun s rest hs _ => value_emptyArray hs rfl⟩
    | cons item more =>
      rw [Value.write, writeItems_eq gaps hcomma rfl]
      exact isTextOf_array hgaps ih
  | object members ih =>
    cases members with
    | nil => exact ⟨exists_write layout (.object []), fun s rest hs _ => value_emptyObject hs rfl⟩
    | cons member more =>
      obtain ⟨key, v⟩ := member
      rw [Value.write, writeMembers_eq gaps hcomma hcolon rfl, hcolon,
        List.append_assoc, List.append_assoc, List.cons_append]
      exact isTextOf_object hlayout hgaps ih

end Scan

end CallScope.Json
