import CallScope.Proofs.JsonText
import CallScope.Proofs.TextBytes

/-!
# Texts of plain characters

A plain character is printable ASCII or the delete character, which JSON does
not force into an escape. Each is one byte, so that the bytes of a plain text are
as plain (`Text.Utf8.plain_bytes`). The spaced text of every value is one
(`Json.Value.isPlain_spaced`).
-/

namespace CallScope

namespace Text.Utf8

/-- **A plain character**: printable ASCII or the delete character. -/
def isPlain (c : Char) : Bool := 0x20 ≤ c.toNat && c.toNat ≤ 0x7f

/-- **A text of plain characters.** -/
def IsPlain (s : List Char) : Prop := ∀ c ∈ s, isPlain c = true

instance (s : List Char) : Decidable (IsPlain s) :=
  decidable_of_decidable_of_iff (List.all_eq_true (l := s) (p := isPlain))

namespace IsPlain

theorem nil : IsPlain [] := fun _ h => nomatch h

theorem cons {c : Char} {s : List Char} (hc : isPlain c = true) (hs : IsPlain s) :
    IsPlain (c :: s) :=
  List.forall_mem_cons.mpr ⟨hc, hs⟩

theorem append {s t : List Char} (hs : IsPlain s) (ht : IsPlain t) : IsPlain (s ++ t) :=
  List.forall_mem_append.mpr ⟨hs, ht⟩

theorem flatMap {α : Type} {text : α → List Char} (h : ∀ a, IsPlain (text a)) (s : List α) :
    IsPlain (s.flatMap text) :=
  List.forall_mem_flatMap.mpr fun a _ => h a

end IsPlain

/-! ## Bytes -/

/-- A plain character is one byte. -/
theorem utf8EncodeChar_of_isPlain {c : Char} (h : isPlain c = true) :
    String.utf8EncodeChar c = [UInt8.ofNat c.toNat] := by
  simp only [isPlain, Bool.and_eq_true, decide_eq_true_eq] at h
  exact if_pos h.2

/-- The byte of a plain character. -/
theorem toNat_ofNat_of_isPlain {c : Char} (h : isPlain c = true) :
    (UInt8.ofNat c.toNat).toNat = c.toNat := by
  simp only [isPlain, Bool.and_eq_true, decide_eq_true_eq] at h
  exact Nat.mod_eq_of_lt (by omega)

/-- **The bytes of a plain text are as plain.** -/
theorem plain_bytes {s : List Char} (h : IsPlain s) :
    ∀ b ∈ bytes (String.ofList s), 0x20 ≤ b.toNat ∧ b.toNat ≤ 0x7f := by
  intro b hb
  rw [bytes_ofList, List.mem_flatMap] at hb
  obtain ⟨c, hc, hb⟩ := hb
  rw [utf8EncodeChar_of_isPlain (h c hc), List.mem_singleton] at hb
  rw [hb, toNat_ofNat_of_isPlain (h c hc)]
  simpa [isPlain] using h c hc

end Text.Utf8

namespace Json

open Text.Utf8 Text.Numeral

/-! ## Numbers -/

theorem isPlain_of_isDigit {c : Char} (h : isDigit c = true) : isPlain c = true := by
  simp only [isDigit, Bool.and_eq_true, decide_eq_true_eq] at h
  have hlow : '0'.toNat ≤ c.toNat := h.1
  have hhigh : c.toNat ≤ '9'.toNat := h.2
  simp only [isPlain, Bool.and_eq_true, decide_eq_true_eq]
  exact ⟨Nat.le_trans (by decide) hlow, Nat.le_trans hhigh (by decide)⟩

/-- The text of a numeral is plain. -/
theorem Numeral.isPlain_text {n : Numeral} (h : n.Valid) : IsPlain n.text := by
  have hdigits : ∀ {s}, Numeral.IsDigits s → IsPlain s := fun h c hc =>
    isPlain_of_isDigit (h.2 c hc)
  refine (hdigits h.whole).append (.append ?_ ?_)
  · cases hfraction : n.fraction with
    | none => exact .nil
    | some places => exact .cons (by decide) (hdigits (h.fraction places hfraction))
  · cases hexponent : n.exponent with
    | none => exact .nil
    | some power =>
      have hsign : isPlain (if power.1 then '-' else '+') = true := by split <;> decide
      exact .cons (by decide) (.cons hsign (hdigits (h.exponent power hexponent)))

/-- The text of a number is plain. -/
theorem Number.isPlain_text (number : Number) : IsPlain number.text := by
  obtain ⟨n, htext, hvalid⟩ := number.exists_numeral
  rw [htext]
  refine .append ?_ (n.isPlain_text hvalid)
  split <;> decide

/-! ## Strings -/

/-- The escape of a unit is plain. -/
theorem isPlain_unitEscape (n : Nat) : IsPlain (unitEscape n) := by
  have hdigit : ∀ d < 16, isPlain (Nat.digitChar d) = true := by decide
  have hmod : ∀ k, isPlain (Nat.digitChar (k % 16)) = true := fun k =>
    hdigit _ (Nat.mod_lt _ (by decide))
  intro c hc
  simp only [unitEscape, hexDigits, List.mem_cons, List.not_mem_nil, or_false] at hc
  rcases hc with rfl | rfl | rfl | rfl | rfl | rfl
  · decide
  · decide
  all_goals exact hmod _

/-- The letters of short escapes are plain. -/
theorem isPlain_letter : ∀ short ∈ shortEscapes, isPlain short.2 = true := by decide

/-- The escapes that JSON forces are plain. -/
theorem isPlain_forced {c : Char} {text : List Char} (h : forcedEscape? c = some text) :
    IsPlain text := by
  unfold forcedEscape? at h
  split at h
  · rename_i letter hletter
    cases h
    obtain ⟨before, after, hentries, -⟩ := List.lookup_eq_some_iff.mp hletter
    have hplain := isPlain_letter (c, letter) (by rw [hentries]; simp)
    exact .cons (by decide) (.cons hplain .nil)
  · split at h
    · cases h
      exact isPlain_unitEscape _
    · cases h

/-- **A character within a string is plain in ASCII.** -/
theorem isPlain_charText (c : Char) : IsPlain (charText asciiChar c) := by
  unfold charText
  cases hforced : forcedEscape? c with
  | some text => exact isPlain_forced hforced
  | none =>
    rw [Option.getD_none, asciiChar]
    split
    · rename_i hascii
      have hcontrol : ¬c.toNat < 0x20 := fun hcontrol => by
        unfold forcedEscape? at hforced
        rw [if_pos hcontrol] at hforced
        split at hforced <;> cases hforced
      refine .cons ?_ .nil
      simp only [isPlain, Bool.and_eq_true, decide_eq_true_eq]
      omega
    · exact .flatMap isPlain_unitEscape _

/-- A string between its quotes is plain. -/
theorem isPlain_quote (s : String) : IsPlain (Layout.spaced.quote s) := by
  rw [Layout.quote, Layout.contents_eq fragment_spaced]
  exact .cons (by decide) (.append (.flatMap isPlain_charText _) (by decide))

/-! ## Values -/

namespace Value

theorem isPlain_writeItems {items : List Value}
    (h : ∀ item ∈ items, IsPlain (item.write .spaced)) : IsPlain (writeItems .spaced items) := by
  induction items with
  | nil => decide
  | cons item rest ih =>
    rw [List.forall_mem_cons] at h
    rw [writeItems]
    exact .append (.append (by decide) h.1) (ih h.2)

theorem isPlain_writeMembers {members : List (String × Value)}
    (h : ∀ member ∈ members, IsPlain (member.2.write .spaced)) :
    IsPlain (writeMembers .spaced members) := by
  induction members with
  | nil => decide
  | cons member rest ih =>
    rw [List.forall_mem_cons] at h
    rw [writeMembers]
    exact .append (.append (.append (.append (by decide) (isPlain_quote member.1)) (by decide)) h.1)
      (ih h.2)

/-- **The spaced text of a value is plain.** -/
theorem isPlain_spaced (v : Value) : IsPlain (v.write .spaced) := by
  induction v using Value.containers with
  | null => decide
  | bool b => cases b <;> decide
  | number n => exact n.isPlain_text
  | string s => exact isPlain_quote s
  | array items ih =>
    cases items with
    | nil => decide
    | cons item rest =>
      rw [List.forall_mem_cons] at ih
      rw [write]
      exact .cons (by decide) (.append ih.1 (isPlain_writeItems ih.2))
  | object members ih =>
    cases members with
    | nil => decide
    | cons member rest =>
      rw [List.forall_mem_cons] at ih
      rw [write]
      exact .cons (by decide) (.append (.append (.append (isPlain_quote member.1) (by decide)) ih.1)
        (isPlain_writeMembers ih.2))

example : (string "París 🙂").write .spaced = "\"Par\\u00eds \\ud83d\\ude42\"".toList := by
  decide

end Value
end Json
end CallScope
