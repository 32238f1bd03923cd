import CallScope.Double.Scaled
import CallScope.Json.Draft
import CallScope.Text.Numeral

/-!
# Scanning the scalars of a JSON text

Literals, numbers and strings, each read from the character list that
begins with it. A scan hands back what is left of the text together with
the proof that this is no longer, or shorter, than what it was given; that
is what the reading of containers recurses on.

A reader and one who only passes over a scalar can meet different flaws in
it. A number that breaks off at the end of the text is truncated to the
first and malformed to the second, and half of a surrogate pair stops the
first and not the second.

Numerals that are no integers are read fast and not always to the nearest
double (`Scan.toDouble`). The double read can be the one beside it, and a
numeral next to the largest double may be refused.
-/

namespace CallScope.Json.Scan

open Text.Numeral

/-- A text without the blanks it begins with. Only four characters are
blanks of a JSON text. -/
def skipBlank (s : List Char) : List Char :=
  s.dropWhile fun c => c == ' ' || c == '\n' || c == '\t' || c == '\r'

theorem length_skipBlank_le (s : List Char) : (skipBlank s).length ≤ s.length :=
  (List.dropWhile_suffix _).length_le

/-- What is left of `s`, no longer than it. -/
abbrev Rest (s : List Char) : Type := { rest : List Char // rest.length ≤ s.length }

/-- What is left of `s` after something was taken from it. -/
abbrev Shorter (s : List Char) : Type := { rest : List Char // rest.length < s.length }

/-! ## Literals -/

/-- The text behind a word it begins with. -/
def word : (letters s : List Char) → Except Flaw (Rest s)
  | [], s => .ok ⟨s, Nat.le_refl _⟩
  | _ :: _, [] => .error .truncated
  | c :: letters, x :: s =>
    if c = x then
      match word letters s with
      | .error flaw => .error flaw
      | .ok rest => .ok ⟨rest.1, Nat.le_succ_of_le rest.2⟩
    else
      .error .malformed

/-! ## Numbers -/

/-- Why a number breaks off where the text `s` begins: for want of text, or
because of what stands there. -/
def numberFlaw {α : Type} (s : List Char) : Except (Flaw × Flaw) α :=
  .error (if s.isEmpty then .truncated else .malformed, .malformed)

/-- The digits a text begins with and what is left, at least one digit. -/
def digits (s : List Char) : Except (Flaw × Flaw) (List Char × Shorter s) :=
  if h : (s.takeWhile isDigit).isEmpty = true then numberFlaw s
  else .ok (s.takeWhile isDigit, ⟨s.dropWhile isDigit, by
    have parts := congrArg List.length (List.takeWhile_append_dropWhile (p := isDigit) (l := s))
    have : (s.takeWhile isDigit).length ≠ 0 := by
      simpa [List.isEmpty_iff] using h
    simp only [List.length_append] at parts
    omega⟩)

/-- The digits before the point: a zero stands alone. -/
def wholeDigits (s : List Char) : Except (Flaw × Flaw) (List Char × Shorter s) :=
  match digits s with
  | .error flaws => .error flaws
  | .ok (ds, rest) =>
    if ds.head? = some '0' ∧ ds.length ≠ 1 then .error (.malformed, .malformed)
    else .ok (ds, rest)

/-- The digits behind a point, if there is one. -/
def fraction (s : List Char) : Except (Flaw × Flaw) (Option (List Char) × Rest s) :=
  match s with
  | '.' :: r =>
    match digits r with
    | .error flaws => .error flaws
    | .ok (ds, rest) => .ok (some ds, ⟨rest.1, Nat.le_succ_of_le (Nat.le_of_lt rest.2)⟩)
  | s => .ok (none, ⟨s, Nat.le_refl _⟩)

/-- The exponent, if there is one. -/
def exponent (s : List Char) : Except (Flaw × Flaw) (Option Int × Rest s) :=
  match s with
  | c :: r =>
    if c = 'e' ∨ c = 'E' then
      match h : splitSign r with
      | (negative, r') =>
        have shorter : r'.length ≤ r.length := by
          have : r' = (splitSign r).2 := by rw [h]
          subst this
          unfold splitSign
          split <;> simp
        match digits r' with
        | .error flaws => .error flaws
        | .ok (ds, rest) =>
          .ok (some (if negative then -(ofDigits ds : Int) else ofDigits ds),
            ⟨rest.1, Nat.le_succ_of_le (Nat.le_trans (Nat.le_of_lt rest.2) shorter)⟩)
    else .ok (none, ⟨c :: r, Nat.le_refl _⟩)
  | [] => .ok (none, ⟨[], Nat.le_refl _⟩)

/-- Digits appended to a number as long as it stays a word, and the digits
from the first one on that has no room. -/
def appendDigits (n : Nat) : List Char → Nat × List Char
  | [] => (n, [])
  | c :: rest =>
    let next := 10 * n + (c.toNat - '0'.toNat)
    if next < 2 ^ 64 then appendDigits next rest else (n, c :: rest)

/-- **The double that the parts of a numeral spell.** As many digits as make
a word are its significand. Those before the point that have no room count
for their places only, and those behind it not at all. The significand is
rounded for itself and scaled by the power of ten. -/
def toDouble (negative : Bool) (whole places : List Char) (power : Int) : Double :=
  let (leading, beyond) := appendDigits 0 whole
  let (significand, ignored) := appendDigits leading places
  (Double.ofRatio negative significand 1).scaled
    (beyond.length - (places.length - ignored.length : Nat) + power)

/-- The number that the parts of a numeral spell. Without point and
exponent it is an integer if it is in range; negative zero is a double.
A numeral that comes out as no finite double spells none. -/
def toNumber (negative : Bool) (whole : List Char) (fraction : Option (List Char))
    (exponent : Option Int) : Option Number :=
  let double : Option Number :=
    let x := toDouble negative whole (fraction.getD []) (exponent.getD 0)
    if h : x.isFinite = true then some (.double x h) else none
  match fraction, exponent with
  | none, none =>
    let n := ofDigits whole
    if negative && n == 0 then double
    else match Integer.ofInt? (if negative then -(n : Int) else n) with
      | some i => some (.integer i)
      | none => double
  | _, _ => double

/-- **A number**, its sign read already. -/
def unsignedNumber (negative : Bool) (s : List Char) :
    Except (Flaw × Flaw) (Option Number × Shorter s) :=
  match wholeDigits s with
  | .error flaws => .error flaws
  | .ok (whole, s₁) =>
    match fraction s₁.1 with
    | .error flaws => .error flaws
    | .ok (places, s₂) =>
      match exponent s₂.1 with
      | .error flaws => .error flaws
      | .ok (power, s₃) =>
        .ok (toNumber negative whole places power,
          ⟨s₃.1, Nat.lt_of_le_of_lt s₃.2 (Nat.lt_of_le_of_lt s₂.2 s₁.2)⟩)

/-! ## Strings -/

/-- The sixteen-bit unit that four hexadecimal digits spell. Fewer than
four bytes of text left are a truncation, whatever they are. -/
def unit (s : List Char) : Except Flaw (Nat × Rest s) :=
  match s with
  | a :: b :: c :: d :: rest =>
    match hexDigit? a, hexDigit? b, hexDigit? c, hexDigit? d with
    | some a, some b, some c, some d =>
      .ok (((a * 16 + b) * 16 + c) * 16 + d, ⟨rest, by simp only [List.length_cons]; omega⟩)
    | _, _, _, _ => .error .malformed
  | s => .error (if 4 ≤ (s.map Char.utf8Size).sum then .malformed else .truncated)

/-- The first half of a surrogate pair. -/
def isHighSurrogate (n : Nat) : Bool := 0xD800 ≤ n && n ≤ 0xDBFF

/-- The second half of a surrogate pair. -/
def isLowSurrogate (n : Nat) : Bool := 0xDC00 ≤ n && n ≤ 0xDFFF

/-- The character of a surrogate pair. -/
def ofSurrogates (high low : Nat) : Char :=
  Char.ofNat (0x10000 + (high - 0xD800) * 0x400 + (low - 0xDC00))

/-- What an escape behind its backslash stands for: a character, or none
where it names half of a surrogate pair only. -/
def escape (s : List Char) : Except Flaw (Option Char × Rest s) :=
  match s with
  | [] => .error .truncated
  | c :: r =>
    let plain (c : Char) : Except Flaw (Option Char × Rest (c :: r)) :=
      .ok (some c, ⟨r, Nat.le_succ _⟩)
    if c = '"' ∨ c = '\\' ∨ c = '/' then plain c
    else if c = 'b' then plain '\x08'
    else if c = 'f' then plain '\x0c'
    else if c = 'n' then plain '\n'
    else if c = 'r' then plain '\r'
    else if c = 't' then plain '\t'
    else if c = 'u' then
      match unit r with
      | .error flaw => .error flaw
      | .ok (n, r₁) =>
        let alone : Option Char × Rest (c :: r) := (none, ⟨r₁.1, Nat.le_succ_of_le r₁.2⟩)
        if isLowSurrogate n then .ok alone
        else if ! isHighSurrogate n then
          .ok (some (Char.ofNat n), ⟨r₁.1, Nat.le_succ_of_le r₁.2⟩)
        else match h : r₁.1 with
          | [] => .error .truncated
          | ['\\'] => .error .truncated
          | '\\' :: 'u' :: r₂ =>
            match unit r₂ with
            | .error flaw => .error flaw
            | .ok (m, r₃) =>
              if isLowSurrogate m then
                .ok (some (ofSurrogates n m), ⟨r₃.1, by
                  have h₁ := r₁.2
                  have h₃ := r₃.2
                  simp only [h, List.length_cons] at h₁ ⊢
                  omega⟩)
              else .ok alone
          | _ => .ok alone
    else .error .malformed

/-- A string read from a text shorter than `bound`. -/
inductive StringRead (bound : Nat) where
  /-- The string, absent if it names half of a surrogate pair, and what
  follows its closing quote. -/
  | done (s : Option String) (rest : List Char) (shorter : rest.length < bound)
  /-- No closing quote: the flaws met when reading and when skipping. -/
  | broken (reading skipping : Flaw)

/-- **A string** behind its opening quote. `before` are the characters read
so far, last first, and `sound` says that no surrogate stood alone among
them. -/
def string (bound : Nat) (sound : Bool) (before s : List Char) (h : s.length < bound) :
    StringRead bound :=
  let stop (flaw : Flaw) : StringRead bound :=
    .broken (if sound then flaw else .malformed) flaw
  match s with
  | [] => stop .truncated
  | c :: r =>
    if c = '"' then
      .done (if sound then some (String.ofList before.reverse) else none) r
        (Nat.lt_of_succ_lt h)
    else if c = '\\' then
      match escape r with
      | .error flaw => stop flaw
      | .ok (c?, rest) =>
        string bound (sound && c?.isSome) (c?.getD ' ' :: before) rest.1
          (Nat.lt_of_le_of_lt rest.2 (Nat.lt_of_succ_lt h))
    else if c.toNat < 0x20 then stop .malformed
    else string bound sound (c :: before) r (Nat.lt_of_succ_lt h)
termination_by s.length
decreasing_by
  · exact Nat.lt_succ_of_le rest.2
  · simp

end CallScope.Json.Scan
