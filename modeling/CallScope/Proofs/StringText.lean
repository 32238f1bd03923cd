import CallScope.Json.Draft.Scan
import CallScope.Json.Printer
import CallScope.Proofs.NumberText

/-!
# Strings that read back

A string goes through two layers of escaping. JSON forces some characters
into escapes, which splits the string into fragments; and a layout may write
the characters of a fragment as further escapes. Together that is one text
for each character (`Layout.contents_eq`), and every such text reads back as
its character (`Scan.readsAs_charText`): a character that stands for itself,
a short escape, the escape of its UTF-16 unit, or those of a surrogate pair.
So whole strings read back (`Scan.string_flatMap`).
-/

namespace CallScope.Json

/-! ## Character by character -/

/-- The text of a character within a string, if `char` is how fragments have
it. -/
def charText (char : Char → List Char) (c : Char) : List Char :=
  (forcedEscape? c).getD (char c)

/-- **A string is written character by character** if fragments are. -/
theorem Layout.contents_eq {layout : Layout} {char : Char → List Char}
    (h : ∀ fragment, layout.fragment fragment = fragment.flatMap char) (before s : List Char) :
    layout.contents before s = before.reverse.flatMap char ++ s.flatMap (charText char) := by
  induction s generalizing before with
  | nil =>
    rw [contents, h]
    exact (List.append_nil _).symm
  | cons c s ih =>
    rw [contents, List.flatMap_cons, charText]
    cases forcedEscape? c with
    | none =>
      dsimp only
      rw [ih, List.reverse_cons, List.flatMap_append, List.flatMap_singleton, List.append_assoc]
      rfl
    | some escape =>
      dsimp only
      rw [ih, h, List.append_assoc]
      rfl

/-- The compact layout has the characters of fragments as they are. -/
theorem fragment_compact (fragment : List Char) :
    Layout.compact.fragment fragment = fragment.flatMap fun c => [c] :=
  (List.flatMap_singleton' fragment).symm

/-- The spaced layout has them in ASCII. -/
theorem fragment_spaced (fragment : List Char) :
    Layout.spaced.fragment fragment = fragment.flatMap asciiChar := by
  have h := asciiFrom?_append [] [] fragment (by simp)
  show (asciiFrom? fragment 0 0 fragment).get _ = _
  exact Option.get_of_eq_some _ h

/-! ## Escapes -/

namespace Scan

open Text.Numeral

theorem hexDigit?_digitChar : ∀ d < 16, hexDigit? (Nat.digitChar d) = some d := by decide

/-- Four hexadecimal digits spell the unit they were written for. -/
theorem unit_hexDigits {n : Nat} (h : n < 0x10000) (rest : List Char) :
    read? (unit (hexDigits n ++ rest)) = some (n, rest) := by
  have hdigit : ∀ k, hexDigit? (Nat.digitChar (k % 16)) = some (k % 16) := fun k =>
    hexDigit?_digitChar _ (Nat.mod_lt _ (by decide))
  show read? (unit (_ :: _ :: _ :: _ :: rest)) = _
  rw [unit, hdigit, hdigit, hdigit, hdigit]
  show some (_, rest) = _
  congr 2
  omega

/-- No character is a surrogate. -/
theorem not_surrogate (c : Char) : c.toNat < 0xD800 ∨ 0xDFFF < c.toNat :=
  c.valid.imp_right And.left

/-- The escape of a character of one unit. -/
theorem escape_unit {c : Char} (h : c.toNat < 0x10000) (rest : List Char) :
    read? (escape ('u' :: (hexDigits c.toNat ++ rest))) = some (some c, rest) := by
  obtain ⟨_, hunit⟩ := read?_eq_some.mp (unit_hexDigits h rest)
  have hlow : isLowSurrogate c.toNat = false := by
    have := not_surrogate c
    simp only [isLowSurrogate, Bool.and_eq_false_iff, decide_eq_false_iff_not]
    omega
  have hhigh : isHighSurrogate c.toNat = false := by
    have := not_surrogate c
    simp only [isHighSurrogate, Bool.and_eq_false_iff, decide_eq_false_iff_not]
    omega
  unfold escape
  dsimp only
  rw [if_neg (by decide), if_neg (by decide), if_neg (by decide), if_neg (by decide),
    if_neg (by decide), if_neg (by decide), if_pos rfl, hunit]
  dsimp only
  rw [hlow, hhigh, Char.ofNat_toNat]
  rfl

/-- The escapes of the two units of a character. -/
theorem escape_pair {high low : Nat} (hhigh : isHighSurrogate high = true)
    (hlow : isLowSurrogate low = true) (rest : List Char) :
    read? (escape ('u' :: (hexDigits high ++ (unitEscape low ++ rest))))
      = some (some (ofSurrogates high low), rest) := by
  have hbounds : 0xD800 ≤ high ∧ high ≤ 0xDBFF := by
    simpa [isHighSurrogate] using hhigh
  have hbounds' : 0xDC00 ≤ low ∧ low ≤ 0xDFFF := by
    simpa [isLowSurrogate] using hlow
  have hother : isLowSurrogate high = false := by
    simp only [isLowSurrogate, Bool.and_eq_false_iff, decide_eq_false_iff_not]
    omega
  obtain ⟨_, hfirst⟩ := read?_eq_some.mp
    (unit_hexDigits (show high < 0x10000 by omega) (unitEscape low ++ rest))
  obtain ⟨_, hsecond⟩ := read?_eq_some.mp (unit_hexDigits (show low < 0x10000 by omega) rest)
  unfold escape
  dsimp only
  rw [if_neg (by decide), if_neg (by decide), if_neg (by decide), if_neg (by decide),
    if_neg (by decide), if_neg (by decide), if_pos rfl, hfirst]
  dsimp only
  rw [hother, hhigh, if_neg (by decide), if_neg (by decide)]
  split
  · rename_i h
    cases h
  · rename_i h
    cases h
  · rename_i r h
    obtain rfl : hexDigits low ++ rest = r := (List.cons.inj (List.cons.inj h).2).2
    rw [hsecond]
    dsimp only
    rw [if_pos hlow]
    rfl
  · rename_i hnone
    exact absurd rfl (hnone (hexDigits low ++ rest))

/-! ## Whole strings -/

/-- **A text within a string reads as a character.** -/
def ReadsAs (text : List Char) (c : Char) : Prop :=
  ∀ (bound : Nat) (before rest : List Char) (h : (text ++ rest).length < bound),
    ∃ h', string bound true before (text ++ rest) h = string bound true (c :: before) rest h'

/-- A character that is neither special nor a control character reads as
itself. -/
theorem readsAs_self {c : Char} (hquote : c ≠ '"') (hbackslash : c ≠ '\\')
    (hcontrol : ¬c.toNat < 0x20) : ReadsAs [c] c := by
  intro bound before rest h
  refine ⟨Nat.lt_of_succ_lt h, ?_⟩
  show string bound true before (c :: rest) h = _
  rw [string, if_neg hquote, if_neg hbackslash, if_neg hcontrol]

/-- An escape reads as the character it stands for. -/
theorem readsAs_escape {text : List Char} {c : Char}
    (hescape : ∀ rest, read? (escape (text ++ rest)) = some (some c, rest)) :
    ReadsAs ('\\' :: text) c := by
  intro bound before rest h
  obtain ⟨_, heq⟩ := read?_eq_some.mp (hescape rest)
  have hlength : rest.length < bound := by
    simp only [List.cons_append, List.length_cons, List.length_append] at h
    omega
  refine ⟨hlength, ?_⟩
  show string bound true before ('\\' :: (text ++ rest)) h = _
  rw [string, if_neg (by decide), if_pos rfl, heq]
  rfl

/-- Behind a backslash, a letter stands for its character. -/
theorem escape_short {c letter : Char} (h : (c, letter) ∈ shortEscapes) (rest : List Char) :
    read? (escape (letter :: rest)) = some (some c, rest) := by
  simp only [shortEscapes, List.mem_cons, Prod.mk.injEq, List.not_mem_nil, or_false] at h
  rcases h with h | h | h | h | h | h | h
  all_goals
    obtain ⟨rfl, rfl⟩ := h
    rfl

/-- The escapes that JSON forces read as their characters. -/
theorem readsAs_forced {c : Char} {text : List Char} (h : forcedEscape? c = some text) :
    ReadsAs text c := by
  unfold forcedEscape? at h
  split at h
  · rename_i letter hletter
    cases h
    obtain ⟨before, after, hentries, -⟩ := List.lookup_eq_some_iff.mp hletter
    exact readsAs_escape fun rest => escape_short (by rw [hentries]; simp) rest
  · split at h
    · rename_i hcontrol
      cases h
      exact readsAs_escape (escape_unit (by omega))
    · cases h

/-- Characters that are not forced into an escape may stand for
themselves. -/
theorem readsAs_unforced {c : Char} (h : forcedEscape? c = none) : ReadsAs [c] c := by
  unfold forcedEscape? at h
  split at h
  · cases h
  · rename_i hshort
    split at h
    · cases h
    · rename_i hcontrol
      refine readsAs_self ?_ ?_ hcontrol
      · rintro rfl
        cases hshort
      · rintro rfl
        cases hshort

/-- **In ASCII, every character that is not forced into an escape reads as
itself**, in one unit or in two. -/
theorem readsAs_asciiChar {c : Char} (h : forcedEscape? c = none) : ReadsAs (asciiChar c) c := by
  unfold asciiChar utf16Units
  split
  · exact readsAs_unforced h
  · dsimp only
    split
    · rename_i hunit
      rw [List.flatMap_singleton]
      exact readsAs_escape (escape_unit hunit)
    · rename_i hpair
      have hlt : c.toNat < 0x110000 :=
        c.valid.elim (fun h => Nat.lt_trans h (by decide)) And.right
      generalize hhigh : 0xD800 + (c.toNat - 0x10000) / 0x400 = high
      generalize hlow : 0xDC00 + (c.toNat - 0x10000) % 0x400 = low
      have hchar : ofSurrogates high low = c :=
        (congrArg Char.ofNat (by omega)).trans (Char.ofNat_toNat c)
      have hisHigh : isHighSurrogate high = true := by
        simp only [isHighSurrogate, Bool.and_eq_true, decide_eq_true_eq]
        omega
      have hisLow : isLowSurrogate low = true := by
        simp only [isLowSurrogate, Bool.and_eq_true, decide_eq_true_eq]
        omega
      rw [List.flatMap_cons, List.flatMap_singleton]
      show ReadsAs ('\\' :: 'u' :: (hexDigits high ++ unitEscape low)) c
      refine readsAs_escape fun rest => ?_
      show read? (escape ('u' :: (hexDigits high ++ unitEscape low ++ rest))) = _
      rw [List.append_assoc, escape_pair hisHigh hisLow, hchar]

/-- **The text of a character reads as the character**, in either layout. -/
theorem readsAs_charText {char : Char → List Char}
    (h : ∀ c, forcedEscape? c = none → ReadsAs (char c) c) (c : Char) :
    ReadsAs (charText char c) c := by
  unfold charText
  cases hforced : forcedEscape? c with
  | none => exact h c hforced
  | some text => exact readsAs_forced hforced

/-- **A string reads back up to its closing quote.** -/
theorem string_flatMap {text : Char → List Char} (h : ∀ c, ReadsAs (text c) c)
    (s before rest : List Char) (bound : Nat)
    (hlength : (s.flatMap text ++ '"' :: rest).length < bound) :
    ∃ h', string bound true before (s.flatMap text ++ '"' :: rest) hlength
      = .done (some (String.ofList (before.reverse ++ s))) rest h' := by
  induction s generalizing before with
  | nil =>
    refine ⟨Nat.lt_of_succ_lt hlength, ?_⟩
    show string bound true before ('"' :: rest) hlength = _
    rw [string, if_pos rfl, List.append_nil]
    rfl
  | cons c s ih =>
    revert hlength
    rw [List.flatMap_cons, List.append_assoc]
    intro hlength
    obtain ⟨hshorter, hfirst⟩ := h c bound before (s.flatMap text ++ '"' :: rest) hlength
    obtain ⟨hrest, hothers⟩ := ih (c :: before) hshorter
    refine ⟨hrest, ?_⟩
    rw [hfirst, hothers, List.reverse_cons, List.append_assoc]
    rfl

end Scan
end CallScope.Json
