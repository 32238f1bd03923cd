import CallScope.Double.Shortest

/-!
# Doubles as text

Two places write doubles: JSON texts, and attribute values shown to a
reader. Both write the shortest decimal; they differ in which of two equally
near decimals they take, in whether a whole number keeps a fraction and in
where digits give way to an exponent. Those choices are one `Double.Style`
each.
-/

namespace CallScope.Double

/-- How the decimal of a double is chosen and laid out. -/
structure Style where
  /-- Which of two equally near decimals is taken. -/
  tie : Tie
  /-- Whether a number whose first digit stands at `10 ^ e` is written
  without an exponent. -/
  positional : Int → Bool
  /-- What follows the digits of a whole number written without an
  exponent. -/
  wholeMark : List Char

/-- JSON texts write exponents below `-5` and from `16` on, and give whole
numbers one decimal place, so that a double never reads back as an
integer. -/
def Style.json : Style :=
  ⟨.even, fun e => decide (-5 ≤ e) && decide (e < 16), ['.', '0']⟩

/-- Displayed values never have an exponent, and whole numbers stand
bare. -/
def Style.plain : Style := ⟨.upper, fun _ => true, []⟩

/-- The significant digits of a coefficient: no zeros at the end, except
that zero has its one digit. -/
def significantDigits (coefficient : Nat) : List Char :=
  match ((Nat.toDigits 10 coefficient).reverse.dropWhile (· == '0')).reverse with
  | [] => ['0']
  | digits => digits

/-- Digits with the point where `exponent` puts it: the first digit stands
at `10 ^ exponent`. -/
def positionalText (wholeMark : List Char) (digits : List Char) (exponent : Int) : List Char :=
  if exponent < 0 then
    '0' :: '.' :: (List.replicate ((-exponent).toNat - 1) '0' ++ digits)
  else
    let whole := exponent.toNat + 1
    if digits.length ≤ whole then
      digits ++ List.replicate (whole - digits.length) '0' ++ wholeMark
    else
      digits.take whole ++ '.' :: digits.drop whole

/-- Digits with one before the point and the exponent spelled out with its
sign. -/
def scientificText (digits : List Char) (exponent : Int) : List Char :=
  digits.take 1 ++ (if digits.length ≤ 1 then [] else '.' :: digits.drop 1)
    ++ 'e' :: (if exponent < 0 then '-' else '+') :: Nat.toDigits 10 exponent.natAbs

/-- A decimal laid out in a style. -/
def Style.text (style : Style) (d : Decimal) : List Char :=
  let exponent := d.exponent + (digitCount d.coefficient - 1 : Nat)
  let digits := significantDigits d.coefficient
  if style.positional exponent then
    positionalText style.wholeMark digits exponent
  else
    scientificText digits exponent

/-- **The text of a double**: its sign, and its shortest decimal in the
style. Doubles that are not finite have names. -/
def text (style : Style) (x : Double) : List Char :=
  if x.isNaN then
    ['N', 'a', 'N']
  else
    (if x.isNegative then ['-'] else [])
      ++ (if x.isFinite then style.text (x.shortest style.tie) else ['i', 'n', 'f'])

/-- The text of a double in a JSON text. -/
def jsonText (x : Double) : List Char := x.text Style.json

/-- The text of a double shown to a reader. -/
def plainText (x : Double) : List Char := x.text Style.plain

end CallScope.Double
