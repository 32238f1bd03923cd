import CallScope.Text.Numeral
import CallScope.Toml.Node

/-!
# Scanning a configuration text

What a TOML text is made of below its tables and arrays: blanks, comments
and line ends, keys, strings, dates and numbers. A scan takes the characters
from some place on and yields what it read there and the rest, or nothing
where the text has none of that kind. No scan looks beyond what it takes,
dates excepted: a date may be followed by a blank and a time.
-/

namespace CallScope.Toml

open Text.Numeral

/-- **What a scan yields**: something read, and the rest. -/
abbrev Scanned (α : Type) : Type := Option (α × List Char)

namespace Scan

/-! ## Blanks, comments and line ends -/

/-- A blank within a line. -/
def isBlank (c : Char) : Bool := c == ' ' || c == '\t'

/-- The text behind blanks. -/
def skipBlanks (s : List Char) : List Char := s.dropWhile isBlank

/-- A character that may stand in a line: no control character but the
tabulator. -/
def isLineChar (c : Char) : Bool := c == '\t' || (0x20 ≤ c.toNat && c.toNat != 0x7F)

/-- The text behind a line end. -/
def lineEnd? : List Char → Option (List Char)
  | '\n' :: rest => some rest
  | '\r' :: '\n' :: rest => some rest
  | _ => none

/-- The text behind a comment, if there is one. -/
def skipComment : List Char → List Char
  | '#' :: rest => rest.dropWhile isLineChar
  | s => s

/-- The text behind what may follow on a line: blanks, a comment, and the
end of the line or of the text. -/
def closeLine? (s : List Char) : Option (List Char) :=
  match skipComment (skipBlanks s) with
  | [] => some []
  | rest => lineEnd? rest

/-- The text behind blanks, comments and line ends. -/
def skipLines? (s : List Char) : Option (List Char) :=
  match skipComment (skipBlanks s) with
  | [] => some []
  | rest =>
    match lineEnd? rest with
    | some rest => if rest.length < s.length then skipLines? rest else none
    | none => if (skipBlanks s).head? = some '#' then none else some rest
termination_by s.length

/-! ## Strings -/

/-- A hexadecimal digit. -/
def isHexDigit (c : Char) : Bool :=
  isDigit c || ('a' ≤ c && c ≤ 'f') || ('A' ≤ c && c ≤ 'F')

/-- The value of a digit in any radix up to sixteen. -/
def digitValue (c : Char) : Nat :=
  if isDigit c then c.toNat - '0'.toNat
  else if 'a' ≤ c then c.toNat - 'a'.toNat + 10
  else c.toNat - 'A'.toNat + 10

/-- The number that digits spell in a radix. -/
def ofDigitsIn (radix : Nat) (digits : List Char) : Nat :=
  digits.foldl (fun n c => radix * n + digitValue c) 0

/-- The character with a code point given by so many hexadecimal digits. -/
def codePoint? (width : Nat) (s : List Char) : Scanned Char :=
  let digits := s.take width
  let n := ofDigitsIn 16 digits
  if digits.length = width ∧ digits.all isHexDigit ∧ n.isValidChar then
    some (Char.ofNat n, s.drop width)
  else none

/-- The character that an escape behind its backslash stands for. -/
def escape? : List Char → Scanned Char
  | 'b' :: rest => some ('\x08', rest)
  | 't' :: rest => some ('\t', rest)
  | 'n' :: rest => some ('\n', rest)
  | 'f' :: rest => some ('\x0c', rest)
  | 'r' :: rest => some ('\r', rest)
  | '"' :: rest => some ('"', rest)
  | '\\' :: rest => some ('\\', rest)
  | 'u' :: rest => codePoint? 4 rest
  | 'U' :: rest => codePoint? 8 rest
  | _ => none

/-- The rest of a string between single quotes, in which nothing is
escaped. -/
def literal? (s : List Char) : Scanned String :=
  let body := s.takeWhile fun c => isLineChar c && c != '\''
  match s.drop body.length with
  | '\'' :: rest => some (String.ofList body, rest)
  | _ => none

/-- The rest of a string between double quotes. `before` is what was read so
far, last first. -/
def basic? (before s : List Char) : Scanned String :=
  match s with
  | [] => none
  | '"' :: rest => some (String.ofList before.reverse, rest)
  | '\\' :: rest =>
    match escape? rest with
    | some (c, after) =>
      if after.length < rest.length then basic? (c :: before) after else none
    | none => none
  | c :: rest => if isLineChar c then basic? (c :: before) rest else none
termination_by s.length
decreasing_by
  all_goals simp only [List.length_cons]; omega

/-- How many of the first characters are that one. -/
def runLength (c : Char) (s : List Char) : Nat := (s.takeWhile (· == c)).length

/-- What a run of quotes in a string of several lines amounts to: the quotes
that belong to the string, and whether it ends with the run. Up to two
quotes may stand before the three that end it. -/
def quoteRun? (run : Nat) : Option (Nat × Bool) :=
  if run < 3 then some (run, false)
  else if run ≤ 5 then some (run - 3, true)
  else none

/-- The text behind a backslash that ends its line, and all blanks and line
ends that follow. -/
def continueLine? (s : List Char) : Option (List Char) :=
  (lineEnd? (skipBlanks s)).map skipBlankLines
where
  /-- The text behind blanks and line ends. -/
  skipBlankLines : List Char → List Char
    | '\r' :: '\n' :: rest => skipBlankLines rest
    | c :: rest => if isBlank c || c == '\n' then skipBlankLines rest else c :: rest
    | [] => []

/-- The rest of a string of several lines between three `quote`s; escapes
count if it is `escaped`. Line ends become plain ones. -/
def multiline? (quote : Char) (escaped : Bool) (before s : List Char) : Scanned String :=
  match s with
  | [] => none
  | c :: rest =>
    if c = quote then
      let run := runLength quote (c :: rest)
      match quoteRun? run with
      | none => none
      | some (kept, true) =>
        some (String.ofList (List.replicate kept quote ++ before).reverse, (c :: rest).drop run)
      | some (kept, false) =>
        multiline? quote escaped (List.replicate kept quote ++ before) (rest.drop (run - 1))
    else if c = '\\' ∧ escaped then
      match continueLine? rest with
      | some after =>
        if after.length ≤ rest.length then multiline? quote escaped before after else none
      | none =>
        match escape? rest with
        | some (e, after) =>
          if after.length ≤ rest.length then multiline? quote escaped (e :: before) after else none
        | none => none
    else if isLineChar c then multiline? quote escaped (c :: before) rest
    else
      match lineEnd? (c :: rest) with
      | some after =>
        if after.length ≤ rest.length then multiline? quote escaped ('\n' :: before) after else none
      | none => none
termination_by s.length
decreasing_by
  all_goals simp only [List.length_cons, List.length_drop]; omega

/-- The text behind the line end with which a string of several lines may
begin. -/
def skipFirstLineEnd (s : List Char) : List Char := (lineEnd? s).getD s

/-- **A string** of any of the four kinds. -/
def string? : List Char → Scanned String
  | '"' :: '"' :: '"' :: rest => multiline? '"' true [] (skipFirstLineEnd rest)
  | '"' :: rest => basic? [] rest
  | '\'' :: '\'' :: '\'' :: rest => multiline? '\'' false [] (skipFirstLineEnd rest)
  | '\'' :: rest => literal? rest
  | _ => none

/-! ## Keys -/

/-- A character of a key without quotes. -/
def isBareChar (c : Char) : Bool :=
  isDigit c || ('a' ≤ c && c ≤ 'z') || ('A' ≤ c && c ≤ 'Z') || c == '_' || c == '-'

/-- One key: bare, or a string of one line. -/
def simpleKey? : List Char → Scanned String
  | '"' :: rest => basic? [] rest
  | '\'' :: rest => literal? rest
  | s =>
    let bare := s.takeWhile isBareChar
    if bare.isEmpty then none else some (String.ofList bare, s.drop bare.length)

/-- How many keys a dotted key or a header may have, and how deep values may
nest; both stay below it. -/
def depthLimit : Nat := 80

/-- Keys with points between them and blanks around them, at most `room`. -/
def keys? : Nat → List Char → Scanned (List String)
  | 0, _ => none
  | room + 1, s =>
    match simpleKey? (skipBlanks s) with
    | none => none
    | some (key, rest) =>
      match skipBlanks rest with
      | '.' :: rest => (keys? room rest).map fun (keys, rest) => (key :: keys, rest)
      | rest => some ([key], rest)

/-- **A dotted key**: the keys that lead to the last one, and the last
one. -/
def dottedKey? (s : List Char) : Scanned (List String × String) :=
  match keys? (depthLimit - 1) s with
  | none => none
  | some (keys, rest) => keys.getLast?.map fun last => ((keys.dropLast, last), rest)

/-! ## Numbers -/

/-- Digits behind a first one. An underscore stands between two digits. -/
def moreDigits? (digit : Char → Bool) : List Char → Scanned (List Char)
  | '_' :: c :: rest =>
    if digit c then (moreDigits? digit rest).map fun (ds, rest) => (c :: ds, rest) else none
  | ['_'] => none
  | c :: rest =>
    if digit c then (moreDigits? digit rest).map fun (ds, rest) => (c :: ds, rest)
    else some ([], c :: rest)
  | [] => some ([], [])

/-- At least one digit. -/
def digits? (digit : Char → Bool) : List Char → Scanned (List Char)
  | c :: rest =>
    if digit c then (moreDigits? digit rest).map fun (ds, rest) => (c :: ds, rest) else none
  | [] => none

/-- The digits before a point: a zero stands alone. -/
def wholeDigits? : List Char → Scanned (List Char)
  | '0' :: rest => some (['0'], rest)
  | s => digits? isDigit s

/-- An integer that is a signed word. -/
def integer? (n : Int) (rest : List Char) : Scanned Node :=
  if -(2 ^ 63) ≤ n ∧ n < 2 ^ 63 then some (.integer (Int64.ofInt n), rest) else none

/-- An integer in a radix that is a power of two. -/
def radixInteger? (radix : Nat) (digit : Char → Bool) (s : List Char) : Scanned Node :=
  match digits? digit s with
  | some (ds, rest) => integer? (ofDigitsIn radix ds) rest
  | none => none

/-- The number of digits with a sign. -/
def signed (negative : Bool) (digits : List Char) : Int :=
  if negative then -(ofDigits digits : Int) else ofDigits digits

/-- The exponent of a number, if it has one. -/
def exponent? : List Char → Scanned (Option Int)
  | c :: rest =>
    if c = 'e' ∨ c = 'E' then
      let (negative, rest) := splitSign rest
      (digits? isDigit rest).map fun (ds, rest) => (some (signed negative ds), rest)
    else some (none, c :: rest)
  | [] => some (none, [])

/-- A floating-point number from its digits. One that is too large is
refused unless it is negative. -/
def float? (negative : Bool) (whole places : List Char) (exponent : Int) (rest : List Char) :
    Scanned Node :=
  let x := Double.ofDecimal negative (ofDigits (whole ++ places)) (exponent - places.length)
  if x = .infinity false then none else some (.float x, rest)

/-- A decimal number behind its sign. -/
def decimal? (negative : Bool) (s : List Char) : Option (Node × List Char) := do
  let (whole, rest) ← wholeDigits? s
  match rest with
  | '.' :: rest =>
    let (places, rest) ← digits? isDigit rest
    let (exponent, rest) ← exponent? rest
    float? negative whole places (exponent.getD 0) rest
  | rest =>
    let (exponent, rest) ← exponent? rest
    match exponent with
    | some exponent => float? negative whole [] exponent rest
    | none => integer? (signed negative whole) rest

/-- **A number**: a decimal one, one in a radix, which takes no sign, or one
of the two names. -/
def number? : List Char → Scanned Node
  | '0' :: 'x' :: rest => radixInteger? 16 isHexDigit rest
  | '0' :: 'o' :: rest => radixInteger? 8 (fun c => '0' ≤ c && c ≤ '7') rest
  | '0' :: 'b' :: rest => radixInteger? 2 (fun c => c == '0' || c == '1') rest
  | s =>
    let (negative, body) := splitSign s
    match body with
    | 'i' :: 'n' :: 'f' :: rest => some (.float (.infinity negative), rest)
    | 'n' :: 'a' :: 'n' :: rest => some (.float (.nan negative), rest)
    | body => decimal? negative body

/-! ## Dates and times -/

/-- A number of exactly so many digits within bounds. -/
def fixed? (width low high : Nat) (s : List Char) : Scanned Nat :=
  let digits := s.take width
  let n := ofDigits digits
  if digits.length = width ∧ digits.all isDigit ∧ low ≤ n ∧ n ≤ high then
    some (n, s.drop width)
  else none

/-- The text behind a character. -/
def past? (c : Char) : List Char → Option (List Char)
  | x :: rest => if x = c then some rest else none
  | [] => none

/-- How many days a month has. -/
def daysIn (year month : Nat) : Nat :=
  if month = 2 then
    if year % 4 = 0 ∧ (year % 100 ≠ 0 ∨ year % 400 = 0) then 29 else 28
  else if month = 4 ∨ month = 6 ∨ month = 9 ∨ month = 11 then 30
  else 31

/-- The text behind a day of the calendar. -/
def day? (s : List Char) : Option (List Char) := do
  let (year, rest) ← fixed? 4 0 9999 s
  let (month, rest) ← fixed? 2 1 12 (← past? '-' rest)
  let (_, rest) ← fixed? 2 1 (daysIn year month) (← past? '-' rest)
  some rest

/-- The text behind a fraction of a second, if there is one. -/
def skipFraction : List Char → List Char
  | '.' :: rest => if rest.head?.any isDigit then rest.dropWhile isDigit else '.' :: rest
  | s => s

/-- The text behind a time of day. -/
def time? (s : List Char) : Option (List Char) := do
  let (_, rest) ← fixed? 2 0 23 s
  let (_, rest) ← fixed? 2 0 59 (← past? ':' rest)
  let (_, rest) ← fixed? 2 0 60 (← past? ':' rest)
  some (skipFraction rest)

/-- The text behind the offset that may follow a time. -/
def offset? : List Char → Option (List Char)
  | 'Z' :: rest => some rest
  | 'z' :: rest => some rest
  | c :: rest =>
    if c = '+' ∨ c = '-' then do
      let (_, rest) ← fixed? 2 0 23 rest
      let (_, rest) ← fixed? 2 0 59 (← past? ':' rest)
      some rest
    else some (c :: rest)
  | [] => some []

/-- The text behind the time that may follow a day. -/
def timeOfDay? : List Char → Option (List Char)
  | c :: rest =>
    if c = 'T' ∨ c = 't' ∨ c = ' ' then
      match time? rest with
      | some rest => offset? rest
      | none => some (c :: rest)
    else some (c :: rest)
  | [] => some []

/-- **A date, a time, or both.** -/
def date? (s : List Char) : Scanned Node :=
  let whole (rest : List Char) : Node × List Char :=
    (.date (String.ofList (s.take (s.length - rest.length))), rest)
  match day? s with
  | some rest => (timeOfDay? rest).map whole
  | none => (time? s).map whole

/-! ## Scalars -/

/-- **A value that holds no other.** -/
def scalar? (s : List Char) : Scanned Node :=
  match s with
  | 't' :: 'r' :: 'u' :: 'e' :: rest => some (.boolean true, rest)
  | 'f' :: 'a' :: 'l' :: 's' :: 'e' :: rest => some (.boolean false, rest)
  | '"' :: _ => (string? s).map fun (text, rest) => (.string text, rest)
  | '\'' :: _ => (string? s).map fun (text, rest) => (.string text, rest)
  | s =>
    match date? s with
    | some read => some read
    | none => number? s

end Scan
end CallScope.Toml
