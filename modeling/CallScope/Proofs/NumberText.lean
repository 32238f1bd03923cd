import CallScope.Json.Draft.Reader
import CallScope.Json.Printer
import CallScope.Proofs.Scaling

/-!
# Numbers that read back

A number is written as a numeral: digits, maybe a point and more digits,
maybe an exponent (`Numeral`). What is read of a numeral depends on what
follows it only in so far as the numeral has to end there
(`Scan.unsignedNumber_text`).

Integers give back themselves. A double is written as its shortest decimal,
however it is laid out, and it is the double nearest to that
(`Double.exists_numeral`). Reading is less exact, so not every double gives back
itself: `Number.ReadsBack` says of a number that it does, and it holds of a
double if its digits make an integer of fifty-three bits near the point
(`Number.exists_numeral_readsBack`).
-/

namespace CallScope.Json

open Text.Numeral

/-- Whether a text begins with no character of a kind. -/
def BeginsWithout (kind : Char → Bool) (s : List Char) : Prop := ∀ c ∈ s.head?, kind c = false

/-- A character of a kind is none that is not of it. -/
theorem ne_of_kind {kind : Char → Bool} {c other : Char} (h : kind c = true)
    (hother : kind other = false) : c ≠ other := by
  rintro rfl
  rw [h] at hother
  cases hother

/-- A character with which a number goes on. -/
def continuesNumber (c : Char) : Bool := isDigit c || c == '.' || c == 'e' || c == 'E'

/-! ## Numerals -/

/-- **A numeral without its sign**: digits before the point, digits behind it
if there is one, and the exponent if there is one, with its sign. -/
structure Numeral where
  whole : List Char
  fraction : Option (List Char)
  exponent : Option (Bool × List Char)

namespace Numeral

/-- The text of an exponent. -/
def exponentText (exponent : Bool × List Char) : List Char :=
  'e' :: (if exponent.1 then '-' else '+') :: exponent.2

/-- The text of a numeral. -/
def text (n : Numeral) : List Char :=
  n.whole ++ ((n.fraction.elim [] fun places => '.' :: places)
    ++ n.exponent.elim [] exponentText)

/-- Digits, and at least one. -/
def IsDigits (s : List Char) : Prop := s ≠ [] ∧ ∀ c ∈ s, isDigit c = true

/-- **A numeral that JSON admits.** -/
structure Valid (n : Numeral) : Prop where
  whole : IsDigits n.whole
  /-- A zero before the point stands alone. -/
  zero : n.whole.head? = some '0' → n.whole.length = 1
  fraction : ∀ places ∈ n.fraction, IsDigits places
  exponent : ∀ power ∈ n.exponent, IsDigits power.2

/-- The power of ten that an exponent spells. -/
def power (exponent : Bool × List Char) : Int :=
  if exponent.1 then -(ofDigits exponent.2 : Int) else ofDigits exponent.2

end Numeral

namespace Scan

/-- What is read of a text and what is left of it, if there is no flaw. -/
def read? {ε α : Type} {left : List Char → Prop} :
    Except ε (α × { rest : List Char // left rest }) → Option (α × List Char)
  | .ok (a, rest) => some (a, rest.1)
  | .error _ => none

/-- What is read comes with a proof about what is left. -/
theorem read?_eq_some {ε α : Type} {left : List Char → Prop}
    {result : Except ε (α × { rest : List Char // left rest })} {a : α} {rest : List Char} :
    read? result = some (a, rest) ↔ ∃ h, result = .ok (a, ⟨rest, h⟩) := by
  constructor
  · intro h
    cases result with
    | error flaw => cases h
    | ok found =>
      obtain ⟨b, rest', hrest⟩ := found
      cases h
      exact ⟨hrest, rfl⟩
  · rintro ⟨h, rfl⟩
    rfl

/-- Digits end where the next character is none. -/
theorem digits_append {ds rest : List Char} (hds : Numeral.IsDigits ds)
    (hrest : BeginsWithout isDigit rest) : read? (digits (ds ++ rest)) = some (ds, rest) := by
  obtain ⟨hne, hall⟩ := hds
  have htake : (ds ++ rest).takeWhile isDigit = ds := by
    rw [List.takeWhile_append_of_pos hall]
    cases rest with
    | nil => exact List.append_nil ds
    | cons c rest =>
      rw [List.takeWhile_cons_of_neg (by simp [hrest c rfl]), List.append_nil]
  have hdrop : (ds ++ rest).dropWhile isDigit = rest := by
    rw [List.dropWhile_append_of_pos hall]
    cases rest with
    | nil => rfl
    | cons c rest => rw [List.dropWhile_cons_of_neg (by simp [hrest c rfl])]
  unfold digits
  rw [dif_neg (by rw [htake]; simpa using hne)]
  show some ((ds ++ rest).takeWhile isDigit, (ds ++ rest).dropWhile isDigit) = _
  rw [htake, hdrop]

/-- The digits before the point. -/
theorem wholeDigits_append {ds rest : List Char} (hds : Numeral.IsDigits ds)
    (hzero : ds.head? = some '0' → ds.length = 1) (hrest : BeginsWithout isDigit rest) :
    read? (wholeDigits (ds ++ rest)) = some (ds, rest) := by
  obtain ⟨_, heq⟩ := read?_eq_some.mp (digits_append hds hrest)
  unfold wholeDigits
  rw [heq]
  dsimp only
  rw [if_neg fun h => h.2 (hzero h.1)]
  rfl

/-- The fraction, or none where no point follows. -/
theorem fraction_append {fraction? : Option (List Char)} {rest : List Char}
    (hds : ∀ places ∈ fraction?, Numeral.IsDigits places)
    (hrest : BeginsWithout (fun c => isDigit c || c == '.') rest) :
    read? (fraction ((fraction?.elim [] fun places => '.' :: places) ++ rest))
      = some (fraction?, rest) := by
  cases fraction? with
  | none =>
    show read? (fraction rest) = _
    unfold fraction
    split
    · exact absurd (hrest '.' rfl) (by decide)
    · rfl
  | some places =>
    have hnone : BeginsWithout isDigit rest := fun c hc =>
      (Bool.or_eq_false_iff.mp (hrest c hc)).1
    obtain ⟨_, heq⟩ := read?_eq_some.mp (digits_append (hds places rfl) hnone)
    show read? (fraction ('.' :: (places ++ rest))) = _
    rw [fraction, heq]
    rfl

/-- The exponent, or none where none follows. -/
theorem exponent_append {exponent? : Option (Bool × List Char)} {rest : List Char}
    (hds : ∀ power ∈ exponent?, Numeral.IsDigits power.2)
    (hrest : BeginsWithout continuesNumber rest) :
    read? (exponent (exponent?.elim [] Numeral.exponentText ++ rest))
      = some (exponent?.map Numeral.power, rest) := by
  cases exponent? with
  | none =>
    show read? (exponent rest) = _
    unfold exponent
    split
    · rename_i c r
      have hc := hrest c rfl
      rw [if_neg]
      · rfl
      · rintro (rfl | rfl) <;> cases hc
    · rfl
  | some power =>
    obtain ⟨negative, ds⟩ := power
    have hnone : BeginsWithout isDigit rest := fun c hc => by
      have := hrest c hc
      simp only [continuesNumber, Bool.or_eq_false_iff] at this
      exact this.1.1.1
    have hsign : splitSign ((if negative then '-' else '+') :: (ds ++ rest))
        = (negative, ds ++ rest) := by
      cases negative <;> rfl
    have hread := digits_append (hds _ rfl) hnone
    rw [show (negative, ds).2 ++ rest = _ from congrArg Prod.snd hsign.symm] at hread
    obtain ⟨_, heq⟩ := read?_eq_some.mp hread
    show read? (exponent ('e' :: (if negative then '-' else '+') :: (ds ++ rest))) = _
    unfold exponent
    dsimp only
    rw [if_pos (Or.inl rfl), heq]
    show some (some (if (splitSign _).1 = true then _ else _), rest) = _
    rw [hsign]
    rfl

/-- **A numeral is read up to where it ends.** -/
theorem unsignedNumber_text (negative : Bool) {n : Numeral} (hn : n.Valid) {rest : List Char}
    (hrest : BeginsWithout continuesNumber rest) :
    read? (unsignedNumber negative (n.text ++ rest))
      = some (toNumber negative n.whole n.fraction (n.exponent.map Numeral.power), rest) := by
  -- neither an exponent nor a point goes on with a digit
  have hexponent : BeginsWithout (fun c => isDigit c || c == '.')
      (n.exponent.elim [] Numeral.exponentText ++ rest) := by
    cases n.exponent with
    | none =>
      intro c hc
      have := hrest c hc
      simp only [continuesNumber, Bool.or_eq_false_iff] at this
      exact Bool.or_eq_false_iff.mpr this.1.1
    | some power =>
      intro c hc
      cases hc
      rfl
  have hfraction : BeginsWithout isDigit ((n.fraction.elim [] fun places => '.' :: places)
      ++ (n.exponent.elim [] Numeral.exponentText ++ rest)) := by
    cases n.fraction with
    | none => exact fun c hc => (Bool.or_eq_false_iff.mp (hexponent c hc)).1
    | some places =>
      intro c hc
      cases hc
      rfl
  obtain ⟨_, hwhole⟩ := read?_eq_some.mp (wholeDigits_append hn.whole hn.zero hfraction)
  obtain ⟨_, hplaces⟩ := read?_eq_some.mp (fraction_append hn.fraction hexponent)
  obtain ⟨_, hpower⟩ := read?_eq_some.mp (exponent_append hn.exponent hrest)
  unfold Numeral.text unsignedNumber
  rw [List.append_assoc, List.append_assoc, hwhole]
  dsimp only
  rw [hplaces]
  dsimp only
  rw [hpower]
  rfl

end Scan

/-! ## The decimal of a numeral -/

namespace Numeral

/-- The digits of a numeral as one number. -/
def coefficient (n : Numeral) : Nat := ofDigits (n.whole ++ n.fraction.getD [])

/-- The power of ten that its last digit stands at. -/
def place (n : Numeral) : Int :=
  (n.exponent.map power).getD 0 - (n.fraction.getD []).length

/-- **A numeral with a point or an exponent spells a double.** -/
theorem toNumber_of_mark (n : Numeral) (hmark : n.fraction.isSome || n.exponent.isSome)
    (negative : Bool) :
    Scan.toNumber negative n.whole n.fraction (n.exponent.map power)
      = if h : (Scan.toDouble negative n.whole (n.fraction.getD [])
          ((n.exponent.map power).getD 0)).isFinite = true then some (.double _ h) else none := by
  obtain ⟨whole, fraction, exponent⟩ := n
  cases fraction <;> cases exponent <;> first | rfl | cases hmark

/-- Digits that make a word are all appended. -/
theorem appendDigits_of_lt {n : Nat} {ds : List Char} (h : Nat.ofDigitChars 10 ds n < 2 ^ 64) :
    Scan.appendDigits n ds = (Nat.ofDigitChars 10 ds n, []) := by
  induction ds generalizing n with
  | nil => rfl
  | cons c ds ih =>
    rw [Nat.ofDigitChars_cons] at h ⊢
    have hnext : 10 * n + (c.toNat - '0'.toNat) < 2 ^ 64 := by
      rw [Nat.ofDigitChars_eq_ofDigitChars_zero] at h
      exact Nat.lt_of_le_of_lt (Nat.le_trans (Nat.le_mul_of_pos_left _ (Nat.pow_pos (by decide)))
        (Nat.le_add_right _ _)) h
    rw [Scan.appendDigits, if_pos hnext, ih h]

/-- **A numeral of few digits near the point is read exactly**: as the double
nearest to its decimal. -/
theorem toDouble_eq (n : Numeral) (hcoefficient : n.coefficient ≤ 2 ^ 53)
    (hplace : n.place.natAbs ≤ 22) (negative : Bool) :
    Scan.toDouble negative n.whole (n.fraction.getD []) ((n.exponent.map power).getD 0)
      = Double.ofDecimal negative n.coefficient n.place := by
  have hall : Nat.ofDigitChars 10 (n.fraction.getD []) (Nat.ofDigitChars 10 n.whole 0)
      = n.coefficient := (Nat.ofDigitChars_append 0).symm
  have hword : n.coefficient < 2 ^ 64 := by omega
  have hwhole : Nat.ofDigitChars 10 n.whole 0 < 2 ^ 64 := by
    rw [← hall, Nat.ofDigitChars_eq_ofDigitChars_zero] at hword
    exact Nat.lt_of_le_of_lt (Nat.le_trans (Nat.le_mul_of_pos_left _ (Nat.pow_pos (by decide)))
      (Nat.le_add_right _ _)) hword
  have hexponent : (([] : List Char).length - ((n.fraction.getD []).length
      - ([] : List Char).length : Nat) + (n.exponent.map power).getD 0 : Int) = n.place := by
    simp only [place, List.length_nil]
    omega
  unfold Scan.toDouble
  rw [appendDigits_of_lt hwhole]
  dsimp only
  rw [appendDigits_of_lt (by rwa [hall]), hall]
  dsimp only
  rw [hexponent, Double.scaled_ofRatio (Double.isExact_of_le hcoefficient) negative hplace]

/-- A numeral reads as a decimal does, with either sign. -/
def Spells (n : Numeral) (coefficient : Nat) (exponent : Int) : Prop :=
  ∀ negative, Double.ofDecimal negative n.coefficient n.place
    = Double.ofDecimal negative coefficient exponent

/-- Zeros at the end of a numeral may go into the exponent. -/
theorem spells_of_zeros {n : Numeral} {coefficient : Nat} {exponent : Int} (zeros : Nat)
    (hcoefficient : n.coefficient = coefficient * 10 ^ zeros)
    (hplace : n.place = exponent - zeros) : n.Spells coefficient exponent := fun negative => by
  rw [hcoefficient, hplace, Double.ofDecimal_shift]

/-! ## Digits -/

theorem isDigits_toDigits (n : Nat) : IsDigits (Nat.toDigits 10 n) :=
  ⟨Nat.toDigits_ne_nil, fun _ h => Nat.isDigit_of_mem_toDigits (by decide) (by decide) h⟩

theorem isDigit_zeros {count : Nat} : ∀ c ∈ List.replicate count '0', isDigit c = true :=
  fun _ h => by rw [List.eq_of_mem_replicate h]; rfl

theorem ofDigits_toDigits (n : Nat) : ofDigits (Nat.toDigits 10 n) = n :=
  Nat.ofDigitChars_ten_toDigits

/-- Zeros at the end multiply by a power of ten. -/
theorem ofDigits_append_zeros (ds : List Char) (count : Nat) :
    ofDigits (ds ++ List.replicate count '0') = ofDigits ds * 10 ^ count := by
  show Nat.ofDigitChars 10 _ 0 = Nat.ofDigitChars 10 ds 0 * 10 ^ count
  rw [Nat.ofDigitChars_append, Nat.ofDigitChars_replicate_zero, Nat.mul_comm]

/-- Zeros at the front count for nothing. -/
theorem ofDigits_zeros_append (count : Nat) (ds : List Char) :
    ofDigits (List.replicate count '0' ++ ds) = ofDigits ds := by
  show Nat.ofDigitChars 10 _ 0 = Nat.ofDigitChars 10 ds 0
  rw [Nat.ofDigitChars_append, Nat.ofDigitChars_replicate_zero, Nat.mul_zero]

/-- No number but zero begins with a zero. -/
theorem head?_toDigits_ne {n : Nat} (h : n ≠ 0) : (Nat.toDigits 10 n).head? ≠ some '0' := by
  induction n using Nat.strongRecOn with
  | ind n ih =>
    rw [Nat.toDigits_eq_if (by decide)]
    split
    · simpa using h
    · have hquotient : n / 10 ≠ 0 := by omega
      obtain ⟨c, ds, hcons⟩ : ∃ c ds, Nat.toDigits 10 (n / 10) = c :: ds :=
        List.exists_cons_of_ne_nil Nat.toDigits_ne_nil
      have hhead := ih (n / 10) (by omega) hquotient
      rw [hcons] at hhead ⊢
      exact hhead

/-- **The significant digits of a number** are its digits up to the zeros at
the end, and they do not begin with a zero. -/
theorem significantDigits_append {coefficient : Nat} (h : coefficient ≠ 0) :
    ∃ zeros, Nat.toDigits 10 coefficient
        = Double.significantDigits coefficient ++ List.replicate zeros '0'
      ∧ IsDigits (Double.significantDigits coefficient)
      ∧ (Double.significantDigits coefficient).head? ≠ some '0' := by
  obtain ⟨hne, hall⟩ := isDigits_toDigits coefficient
  have hhead := head?_toDigits_ne h
  generalize hreversed : (Nat.toDigits 10 coefficient).reverse = reversed
  generalize hkept : (reversed.dropWhile (· == '0')).reverse = kept
  have hzeros : reversed.takeWhile (· == '0')
      = List.replicate (reversed.takeWhile (· == '0')).length '0' :=
    List.eq_replicate_of_mem fun c hc =>
      beq_iff_eq.mp (List.all_eq_true.mp List.all_takeWhile c hc)
  generalize (reversed.takeWhile (· == '0')).length = zeros at hzeros
  have hsplit : Nat.toDigits 10 coefficient = kept ++ List.replicate zeros '0' := by
    rw [← List.reverse_reverse (Nat.toDigits 10 coefficient), hreversed,
      ← List.takeWhile_append_dropWhile (p := (· == '0')) (l := reversed), List.reverse_append,
      hkept, hzeros, List.reverse_replicate]
  rw [hsplit] at hne hall hhead
  -- something is kept, or the digits would begin with a zero
  have hsome : kept ≠ [] := by
    rintro rfl
    cases zeros with
    | zero => exact hne rfl
    | succ zeros => exact hhead rfl
  have hsignificant : Double.significantDigits coefficient = kept := by
    unfold Double.significantDigits
    rw [hreversed, hkept]
    cases kept with
    | nil => exact absurd rfl hsome
    | cons c kept => rfl
  rw [hsignificant]
  refine ⟨zeros, hsplit, ⟨hsome, fun c hc => hall c (List.mem_append_left _ hc)⟩, ?_⟩
  obtain ⟨c, ds, rfl⟩ := List.exists_cons_of_ne_nil hsome
  exact hhead

/-! ## Layouts -/

section Layouts

variable {digits : List Char} (hdigits : IsDigits digits) (hhead : digits.head? ≠ some '0')

include hdigits hhead in
/-- **Digits with the point where the exponent puts it** are a numeral with a
fraction. -/
theorem exists_positionalText (exponent : Int) :
    ∃ n : Numeral, Double.positionalText ['.', '0'] digits exponent = n.text ∧ n.Valid
      ∧ n.fraction.isSome
      ∧ n.Spells (ofDigits digits) (exponent - (digits.length - 1 : Nat)) := by
  have hlength := List.length_pos_iff.mpr hdigits.1
  unfold Double.positionalText
  split
  · -- zeros between the point and the digits
    generalize hcount : (-exponent).toNat - 1 = count
    refine ⟨⟨['0'], some (List.replicate count '0' ++ digits), none⟩, ?_, ?_, rfl, ?_⟩
    · exact congrArg (fun s => '0' :: '.' :: s) (List.append_nil _).symm
    · refine ⟨⟨by simp, by simp [isDigit]⟩, fun _ => rfl, ?_, by simp⟩
      rintro places ⟨rfl⟩
      exact ⟨by simp [hdigits.1], fun c hc =>
        (List.mem_append.mp hc).elim (isDigit_zeros c) (hdigits.2 c)⟩
    · refine spells_of_zeros 0 ?_ ?_
      · rw [Nat.pow_zero, Nat.mul_one]
        exact ofDigits_zeros_append (count + 1) digits
      · simp only [place, Option.map_none, Option.getD_none, Option.getD_some, List.length_append,
          List.length_replicate]
        omega
  · dsimp only
    split
    · -- zeros between the digits and the point
      generalize hcount : exponent.toNat + 1 - digits.length = count
      refine ⟨⟨digits ++ List.replicate count '0', some ['0'], none⟩, rfl, ?_, rfl, ?_⟩
      · refine ⟨⟨by simp [hdigits.1], fun c hc =>
          (List.mem_append.mp hc).elim (hdigits.2 c) (isDigit_zeros c)⟩, fun hzero => ?_, ?_,
          by simp⟩
        · obtain ⟨c, ds, rfl⟩ := List.exists_cons_of_ne_nil hdigits.1
          exact absurd hzero hhead
        · rintro places ⟨rfl⟩
          exact ⟨by simp, by simp [isDigit]⟩
      · refine spells_of_zeros (count + 1) ?_ ?_
        · rw [← ofDigits_append_zeros, List.replicate_succ', ← List.append_assoc]
          rfl
        · simp only [place, Option.map_none, Option.getD_none, Option.getD_some, List.length_cons,
            List.length_nil]
          omega
    · -- the point among the digits
      generalize hcount : exponent.toNat + 1 = count
      refine ⟨⟨digits.take count, some (digits.drop count), none⟩, ?_, ?_, rfl, ?_⟩
      · exact congrArg (digits.take count ++ ·) (List.append_nil _).symm
      · refine ⟨⟨?_, fun c hc => hdigits.2 c (List.mem_of_mem_take hc)⟩, fun hzero => ?_, ?_,
          by simp⟩
        · rw [Ne, List.take_eq_nil_iff]
          rintro (hnone | hnil)
          · omega
          · exact hdigits.1 hnil
        · obtain ⟨c, ds, rfl⟩ := List.exists_cons_of_ne_nil hdigits.1
          rw [← hcount] at hzero
          exact absurd hzero hhead
        · rintro places ⟨rfl⟩
          refine ⟨?_, fun c hc => hdigits.2 c (List.mem_of_mem_drop hc)⟩
          rw [Ne, List.drop_eq_nil_iff]
          omega
      · refine spells_of_zeros 0 ?_ ?_
        · rw [Nat.pow_zero, Nat.mul_one]
          exact congrArg ofDigits (List.take_append_drop count digits)
        · simp only [place, Option.map_none, Option.getD_none, Option.getD_some, List.length_drop]
          omega

include hdigits hhead in
/-- **Digits with an exponent spelled out** are a numeral with that exponent. -/
theorem exists_scientificText (exponent : Int) :
    ∃ n : Numeral, Double.scientificText digits exponent = n.text ∧ n.Valid
      ∧ n.exponent.isSome
      ∧ n.Spells (ofDigits digits) (exponent - (digits.length - 1 : Nat)) := by
  obtain ⟨c, ds, rfl⟩ := List.exists_cons_of_ne_nil hdigits.1
  have hpower : power (decide (exponent < 0), Nat.toDigits 10 exponent.natAbs) = exponent := by
    unfold power
    dsimp only
    rw [ofDigits_toDigits]
    by_cases h : exponent < 0
    · rw [if_pos (decide_eq_true h)]
      omega
    · rw [if_neg (by simpa using h)]
      omega
  refine ⟨⟨[c], if ds.isEmpty then none else some ds,
    some (decide (exponent < 0), Nat.toDigits 10 exponent.natAbs)⟩, ?_, ?_, rfl, ?_⟩
  · unfold Double.scientificText text exponentText
    cases ds <;> simp
  · refine ⟨⟨by simp, fun x hx => hdigits.2 x (List.mem_of_mem_take (i := 1) hx)⟩, fun _ => rfl,
      fun places hplaces => ?_, ?_⟩
    · cases ds with
      | nil => cases hplaces
      | cons d ds =>
        cases hplaces
        exact ⟨by simp, fun x hx => hdigits.2 x (List.mem_cons_of_mem _ hx)⟩
    · rintro power ⟨rfl⟩
      exact isDigits_toDigits _
  · refine spells_of_zeros 0 ?_ ?_
    · rw [Nat.pow_zero, Nat.mul_one]
      cases ds <;> rfl
    · simp only [place, Option.map_some, Option.getD_some, hpower]
      cases ds with
      | nil => simp
      | cons d ds => simp

end Layouts

/-! ## Numbers -/

/-- The text of a decimal of which something is left. -/
theorem exists_text {d : Decimal} (h : d.coefficient ≠ 0) :
    ∃ n : Numeral, Double.Style.json.text d = n.text ∧ n.Valid
      ∧ (n.fraction.isSome || n.exponent.isSome) ∧ n.Spells d.coefficient d.exponent := by
  obtain ⟨zeros, hsplit, hdigits, hhead⟩ := significantDigits_append h
  have hcoefficient : d.coefficient
      = ofDigits (Double.significantDigits d.coefficient) * 10 ^ zeros := by
    rw [← ofDigits_append_zeros, ← hsplit, ofDigits_toDigits]
  have hcount : Double.digitCount d.coefficient
      = (Double.significantDigits d.coefficient).length + zeros := by
    unfold Double.digitCount
    rw [hsplit, List.length_append, List.length_replicate]
  have hlength := List.length_pos_iff.mpr hdigits.1
  unfold Double.Style.text
  dsimp only
  generalize hexponent : d.exponent + ((Double.digitCount d.coefficient - 1 : Nat) : Int) = exponent
  generalize Double.significantDigits d.coefficient = digits at *
  have hshift : ∀ negative, Double.ofDecimal negative (ofDigits digits)
      (exponent - (digits.length - 1 : Nat))
        = Double.ofDecimal negative d.coefficient d.exponent := fun negative => by
    rw [hcoefficient, show d.exponent = exponent - (digits.length - 1 : Nat) - zeros by omega,
      Double.ofDecimal_shift]
  split
  · obtain ⟨n, htext, hvalid, hmark, hspells⟩ := exists_positionalText hdigits hhead exponent
    exact ⟨n, htext, hvalid, Bool.or_eq_true_iff.mpr (.inl hmark),
      fun negative => (hspells negative).trans (hshift negative)⟩
  · obtain ⟨n, htext, hvalid, hmark, hspells⟩ := exists_scientificText hdigits hhead exponent
    exact ⟨n, htext, hvalid, Bool.or_eq_true_iff.mpr (.inr hmark),
      fun negative => (hspells negative).trans (hshift negative)⟩

end Numeral

/-- **The text of a double is a numeral that reads as it.** -/
theorem Double.exists_numeral {x : Double} (h : x.isFinite = true) :
    ∃ n : Numeral, Double.Style.json.text (x.shortest .even) = n.text ∧ n.Valid
      ∧ (n.fraction.isSome || n.exponent.isSome)
      ∧ Double.ofDecimal x.isNegative n.coefficient n.place = x := by
  have hread := Double.ofDecimal_shortest .even h
  have hnothing : ∀ exponent, Double.ofDecimal x.isNegative 0 exponent = .zero x.isNegative :=
    fun _ => if_pos rfl
  cases hzero : x.isZero with
  | true =>
    have hshortest : x.shortest .even = ⟨0, 0⟩ := if_pos hzero
    rw [hshortest, hnothing] at hread
    rw [hshortest]
    refine ⟨⟨['0'], some ['0'], none⟩, by decide, ?_, rfl, (hnothing _).trans hread⟩
    refine ⟨⟨by simp, by simp [isDigit]⟩, fun _ => rfl, ?_, by simp⟩
    rintro places ⟨rfl⟩
    exact ⟨by simp, by simp [isDigit]⟩
  | false =>
    have hsome : (x.shortest .even).coefficient ≠ 0 := fun hnone => by
      rw [hnone, hnothing] at hread
      have hmagnitude : x.magnitude = 0 := by
        rw [← hread]
        exact Double.magnitude_ofMagnitude (by decide) _
      rw [Double.isZero, hmagnitude] at hzero
      cases hzero
    obtain ⟨n, htext, hvalid, hmark, hspells⟩ := Numeral.exists_text hsome
    exact ⟨n, htext, hvalid, hmark, (hspells _).trans hread⟩

namespace Number

/-- Whether a number is written with a sign. -/
def isNegative : Number → Bool
  | .integer n => n.val < 0
  | .double x _ => x.isNegative

/-- **What the text of a number is read as**, none if it is refused. -/
def reread (number : Number) : Option Number :=
  (Scan.read? (Scan.unsignedNumber number.isNegative
    (number.text.drop (if number.isNegative then 1 else 0)))).bind Prod.fst

/-- **A number that its text reads back as.** -/
def ReadsBack (number : Number) : Prop := number.reread = some number

instance (number : Number) : Decidable number.ReadsBack :=
  inferInstanceAs (Decidable (number.reread = some number))

/-- A number is read again as its numeral is. -/
theorem reread_eq {number : Number} {n : Numeral} (hn : n.Valid)
    (htext : number.text = (if number.isNegative then ['-'] else []) ++ n.text) :
    number.reread
      = Scan.toNumber number.isNegative n.whole n.fraction (n.exponent.map Numeral.power) := by
  have hdrop : number.text.drop (if number.isNegative then 1 else 0) = n.text ++ [] := by
    rw [htext, List.append_nil]
    cases number.isNegative <;> rfl
  have hend : BeginsWithout continuesNumber [] := nofun
  rw [reread, hdrop, Scan.unsignedNumber_text number.isNegative hn hend]
  rfl

/-- **An integer reads back.** -/
theorem exists_numeral_integer (i : Integer) :
    ∃ n : Numeral, (Number.integer i).text
        = (if (Number.integer i).isNegative then ['-'] else []) ++ n.text
      ∧ n.Valid ∧ (Number.integer i).ReadsBack := by
  obtain ⟨val, lower, upper⟩ := i
  have hvalid : Numeral.Valid ⟨Nat.toDigits 10 val.natAbs, none, none⟩ := by
    refine ⟨Numeral.isDigits_toDigits _, fun hzero => ?_, by simp, by simp⟩
    by_cases h : val.natAbs = 0
    · rw [h]
      rfl
    · exact absurd hzero (Numeral.head?_toDigits_ne h)
  have htext : (Number.integer ⟨val, lower, upper⟩).text
      = (if (Number.integer ⟨val, lower, upper⟩).isNegative then ['-'] else [])
        ++ Numeral.text ⟨Nat.toDigits 10 val.natAbs, none, none⟩ := by
    simp [text, isNegative, Numeral.text]
  refine ⟨_, htext, hvalid, ?_⟩
  have hval : (if decide (val < 0) then -(val.natAbs : Int) else val.natAbs) = val := by
    split <;> simp only [decide_eq_true_eq] at * <;> omega
  have hzero : (decide (val < 0) && val.natAbs == 0) = false := by
    by_cases h : val < 0
    · rw [decide_eq_true h, Bool.true_and, beq_eq_false_iff_ne]
      omega
    · rw [decide_eq_false h, Bool.false_and]
  have hint : Integer.ofInt? val = some ⟨val, lower, upper⟩ := dif_pos ⟨lower, upper⟩
  rw [ReadsBack, reread_eq hvalid htext]
  simp only [Scan.toNumber, isNegative, Numeral.ofDigits_toDigits, Option.map_none, hval, hzero,
    hint, Bool.false_eq_true, if_false]

theorem readsBack_integer (i : Integer) : (Number.integer i).ReadsBack :=
  have ⟨_, _, _, h⟩ := exists_numeral_integer i
  h

/-- **A double reads back if it is written with few digits near the point**: if
they make an integer of no more than fifty-three bits and the last of them
stands at one of the powers of ten that are doubles. -/
theorem exists_numeral_readsBack {x : Double} (h : x.isFinite = true) :
    ∃ n : Numeral, (Number.double x h).text = (if x.isNegative then ['-'] else []) ++ n.text
      ∧ n.Valid
      ∧ (n.coefficient ≤ 2 ^ 53 → n.place.natAbs ≤ 22 → (Number.double x h).ReadsBack) := by
  obtain ⟨n, htext, hvalid, hmark, hread⟩ := Double.exists_numeral h
  have hnan : x.isNaN = false := by
    have hfinite : x.magnitude < Double.infiniteMagnitude := of_decide_eq_true h
    exact decide_eq_false (by omega)
  have htext : (Number.double x h).text = (if x.isNegative then ['-'] else []) ++ n.text := by
    show Double.text _ x = _
    unfold Double.text
    rw [hnan, h, ← htext]
    rfl
  refine ⟨n, htext, hvalid, fun hcoefficient hplace => ?_⟩
  rw [ReadsBack, reread_eq hvalid htext, n.toNumber_of_mark hmark,
    n.toDouble_eq hcoefficient hplace]
  simp only [isNegative, hread]
  exact dif_pos h

/-- **The text of a number is its sign and a numeral.** -/
theorem exists_numeral (number : Number) :
    ∃ n : Numeral, number.text = (if number.isNegative then ['-'] else []) ++ n.text
      ∧ n.Valid := by
  cases number with
  | integer i =>
    obtain ⟨n, htext, hvalid, -⟩ := exists_numeral_integer i
    exact ⟨n, htext, hvalid⟩
  | double x h =>
    obtain ⟨n, htext, hvalid, -⟩ := exists_numeral_readsBack h
    exact ⟨n, htext, hvalid⟩

end Number
namespace Scan

/-- What is read of a text and what is left of it, unless it is flawed. -/
def DraftRead.read? {bound : Nat} : DraftRead bound → Option (Draft × List Char)
  | .done draft rest _ => some (draft, rest)
  | .stuck _ => none

/-- Whether a number may begin with a character. -/
def beginsNumber (c : Char) : Bool := c == '-' || isDigit c

/-- **The text of a number is read** as a number, whatever follows it. -/
theorem scalar_number (number : Number) {rest : List Char}
    (hrest : BeginsWithout continuesNumber rest) :
    ∃ c r, number.text ++ rest = c :: r ∧ beginsNumber c
      ∧ (scalar c r).read? = some (.number number.reread, rest) := by
  obtain ⟨n, htext, hvalid⟩ := number.exists_numeral
  have hread := unsignedNumber_text number.isNegative hvalid hrest
  rw [← number.reread_eq hvalid htext] at hread
  cases hsign : number.isNegative with
  | true =>
    rw [hsign] at htext hread
    obtain ⟨_, heq⟩ := read?_eq_some.mp hread
    refine ⟨'-', n.text ++ rest, by rw [htext]; rfl, rfl, ?_⟩
    unfold scalar
    dsimp only
    rw [if_neg (by decide), if_neg (by decide), if_neg (by decide), if_pos rfl, heq]
    rfl
  | false =>
    rw [hsign] at htext hread
    obtain ⟨c, r, hcons⟩ : ∃ c r, n.text ++ rest = c :: r ∧ isDigit c := by
      obtain ⟨d, ds, hwhole⟩ := List.exists_cons_of_ne_nil hvalid.whole.1
      refine ⟨d, _, by rw [Numeral.text, hwhole]; rfl, hvalid.whole.2 d (by rw [hwhole]; simp)⟩
    rw [hcons.1] at hread
    obtain ⟨_, heq⟩ := read?_eq_some.mp hread
    refine ⟨c, r, by rw [htext]; exact hcons.1, Bool.or_eq_true_iff.mpr (.inr hcons.2), ?_⟩
    unfold scalar
    dsimp only
    rw [if_neg (ne_of_kind hcons.2 rfl), if_neg (ne_of_kind hcons.2 rfl),
      if_neg (ne_of_kind hcons.2 rfl), if_neg (ne_of_kind hcons.2 rfl), if_pos hcons.2, heq]
    rfl

end Scan
end CallScope.Json
