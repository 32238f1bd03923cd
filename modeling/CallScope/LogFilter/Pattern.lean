import CallScope.Text.Alphanumeric
import CallScope.Text.Blank
import CallScope.Text.Numeral

/-!
# Patterns

A directive of a log filter may ask that the value of a field match a regular
expression. Values are not known yet when a span is let through, so nothing
is ever matched here; but a directive whose pattern is malformed is none. So
`Pattern.isValid` tells patterns from other texts, and builds nothing.

A pattern is read from left to right, one token after another. What there is
to remember in between is a `Place`: the flags in force, those in force
around each group that is open, whether something stands before that can be
repeated, and the names of the groups so far.

Patterns know nothing of the characters beyond their code points. What would
need more – the classes of digits, blanks and word characters, the bounds of
words, the properties of characters, letters in either case – makes a pattern
invalid while it is about characters. With the flag `u` off it is about bytes,
and all of these mean ASCII; but then nothing is valid that might match a part
of a character.
-/

namespace CallScope.Pattern

open Text Text.Numeral

/-! ## Flags -/

/-- **The flags in force.** Others have no bearing on validity. -/
structure Flags where
  /-- Letters match in either case. -/
  anyCase : Bool := false
  /-- The pattern is about characters, not bytes. -/
  unicode : Bool := true
  /-- Blanks and comments are passed over. -/
  spaced : Bool := false
deriving DecidableEq

namespace Flags

/-- The letters of all flags. -/
def letters : List Char := ['i', 'm', 's', 'U', 'u', 'R', 'x']

/-- A flag set or cleared. -/
def set (f : Flags) (letter : Char) (on : Bool) : Flags :=
  if letter = 'i' then { f with anyCase := on }
  else if letter = 'u' then { f with unicode := on }
  else if letter = 'x' then { f with spaced := on }
  else f

/-- A text without the blanks and comments it begins with. A comment goes to
the end of its line. -/
def skipSpaced : (comment : Bool) → List Char → List Char
  | _, [] => []
  | true, c :: s => skipSpaced (c != '\n') s
  | false, c :: s =>
    if isBlankChar c then skipSpaced false s
    else if c = '#' then skipSpaced true s
    else c :: s

/-- A text without what is passed over at its beginning. -/
def skip (f : Flags) (s : List Char) : List Char := if f.spaced then skipSpaced false s else s

/-- The character that comes next, as it is seen from the sign of a range: of
a comment no more is passed over than its mark. -/
def peek? (f : Flags) (s : List Char) : Option Char :=
  if f.spaced then
    match s.dropWhile isBlankChar with
    | '#' :: rest => (rest.dropWhile isBlankChar).head?
    | s => s.head?
  else s.head?

end Flags

/-! ## Atoms -/

/-- **What stands for one place** of a text that is matched. -/
inductive Atom where
  /-- A character; `byte` says that it is given as a byte. -/
  | char (c : Char) (byte : Bool)
  /-- The digits, the blanks, the word characters, or all others. -/
  | shorthand (negated : Bool)
  /-- A bound of a word, or any place that is none. -/
  | wordBound
  /-- The beginning or the end of the text. -/
  | edge

namespace Flags

/-- Whether an atom is valid on its own. -/
def admits (f : Flags) : Atom → Bool
  | .char c byte => if f.unicode then !f.anyCase else !(byte && decide (0x80 ≤ c.toNat))
  | .shorthand negated => !f.unicode && !negated
  | .wordBound => !f.unicode
  | .edge => true

/-- Whether an atom is valid in a class. -/
def admitsInClass (f : Flags) : Atom → Bool
  | .char c _ => f.unicode || decide (c.toNat < 0x80)
  | .shorthand negated => !f.unicode && !negated
  | .wordBound => false
  | .edge => false

end Flags

/-- The number that so many hexadecimal digits spell behind the digits of
`before`, and what follows them. -/
def hexDigits? (f : Flags) : (count before : Nat) → List Char → Option (Nat × List Char)
  | 0, n, s => some (n, s)
  | count + 1, n, s =>
    match f.skip s with
    | [] => none
    | c :: s => (hexDigit? c).bind fun digit => hexDigits? f count (16 * n + digit) s

/-- The character that so many hexadecimal digits spell. -/
def codePoint? (f : Flags) (count : Nat) (s : List Char) : Option (Atom × List Char) :=
  match hexDigits? f count 0 s with
  | some (n, rest) => if n.isValidChar then some (.char (Char.ofNat n) (count == 2), rest) else none
  | none => none

/-- The control characters that have a letter. -/
def controls : List (Char × Char) :=
  [('a', '\x07'), ('t', '\t'), ('n', '\n'), ('v', '\x0b'), ('f', '\x0c'), ('r', '\r')]

/-- **An escape** behind its backslash. -/
def escape? (f : Flags) : List Char → Option (Atom × List Char)
  | [] => none
  | c :: s =>
    if c = 'x' then codePoint? f 2 s
    else if c = 'u' then codePoint? f 4 s
    else if c = 'U' then codePoint? f 8 s
    else if c = 'd' ∨ c = 's' ∨ c = 'w' then some (.shorthand false, s)
    else if c = 'D' ∨ c = 'S' ∨ c = 'W' then some (.shorthand true, s)
    else if c = 'b' ∨ c = 'B' ∨ c = '<' ∨ c = '>' then some (.wordBound, s)
    else if c = 'A' ∨ c = 'z' then some (.edge, s)
    else match controls.lookup c with
      | some control => some (.char control false, s)
      | none => if c.isAlphanum || 0x80 ≤ c.toNat then none else some (.char c false, s)

/-! ## Classes -/

/-- The names of classes. -/
def classNames : List String :=
  ["alnum", "alpha", "ascii", "blank", "cntrl", "digit", "graph", "lower", "print", "punct",
    "space", "upper", "word", "xdigit"]

/-- A class given by its name, behind its opening bracket: whether it is
negated, and what follows it. -/
def namedClass? : List Char → Option (Bool × List Char)
  | ':' :: s =>
    let (negated, s) := match s with
      | '^' :: s => (true, s)
      | s => (false, s)
    let name := s.takeWhile (· != ':')
    match s.drop name.length with
    | ':' :: ']' :: rest =>
      if classNames.contains (String.ofList name) then some (negated, rest) else none
    | _ => none
  | _ => none

/-- A text without the dashes it begins with, and whether there were any. -/
def skipDashes (f : Flags) : (fuel : Nat) → (any : Bool) → List Char → Bool × List Char
  | fuel + 1, _, '-' :: s => skipDashes f fuel true (f.skip s)
  | _, any, s => (any, s)

/-- The beginning of a class behind its opening bracket: dashes and a closing
bracket mean themselves there. -/
def classStart? (f : Flags) (s : List Char) : Option (List Char) :=
  let (negated, s) := match f.skip s with
    | '^' :: s => (true, f.skip s)
    | s => (false, s)
  if negated && !f.unicode then none
  else match skipDashes f s.length false s with
    | (false, ']' :: s) => some s
    | (_, s) => some s

/-- A character of a class, or an escape. -/
def classAtom? (f : Flags) : List Char → Option (Atom × List Char)
  | [] => none
  | '\\' :: s => escape? f s
  | c :: s => some (.char c false, s)

/-- What follows an item of a class: one atom, or two with a dash between
them. -/
def classItem? (f : Flags) (s : List Char) : Option (List Char) :=
  match classAtom? f s with
  | none => none
  | some (a, s) =>
    let alone := if f.admitsInClass a then some (f.skip s) else none
    match f.skip s with
    | '-' :: s =>
      if f.peek? s = some ']' ∨ f.peek? s = some '-' then alone
      else match a, classAtom? f (f.skip s) with
        | .char low _, some (.char high byte, rest) =>
          if low ≤ high && f.admitsInClass a && f.admitsInClass (.char high byte) then some rest
          else none
        | _, _ => none
    | _ => alone

/-- The rest of a class that lies within `depth` others, and what follows
them all. -/
def classRest? (f : Flags) : (fuel depth : Nat) → List Char → Option (List Char)
  | 0, _, _ => none
  | fuel + 1, depth, s =>
    match f.skip s with
    | [] => none
    | '[' :: s =>
      match namedClass? s with
      | some (negated, rest) =>
        if negated && !f.unicode then none else classRest? f fuel depth rest
      | none => (classStart? f s).bind (classRest? f fuel (depth + 1))
    | ']' :: s =>
      match depth with
      | 0 => some s
      | depth + 1 => classRest? f fuel depth s
    | '&' :: '&' :: s => classRest? f fuel depth s
    | '-' :: '-' :: s => classRest? f fuel depth s
    | '~' :: '~' :: s => classRest? f fuel depth s
    | s => (classItem? f s).bind (classRest? f fuel depth)

/-- **What follows a class**, itself behind its opening bracket. -/
def bracketed? (f : Flags) (s : List Char) : Option (List Char) :=
  if f.unicode && f.anyCase then none
  else (classStart? f s).bind (classRest? f (s.length + 1) 0)

/-! ## Groups -/

/-- **What is known of the pattern** at a place within it. -/
structure Place where
  flags : Flags := {}
  /-- The flags around each open group, the innermost first. -/
  enclosing : List Flags := []
  /-- Whether something comes before that can be repeated. -/
  repeatable : Bool := false
  /-- The names of groups. -/
  names : List String := []

namespace Place

/-- A group opens, with flags of its own. -/
def enter (p : Place) (flags : Flags) : Place :=
  { p with flags, enclosing := p.flags :: p.enclosing, repeatable := false }

/-- The innermost group closes, if one is open. -/
def leave? (p : Place) : Option Place :=
  match p.enclosing with
  | [] => none
  | flags :: enclosing => some { p with flags, enclosing, repeatable := true }

/-- Something has been read that can be repeated. -/
def behindAtom (p : Place) : Place := { p with repeatable := true }

end Place

/-- A name that a group may have. -/
def isGroupName : List Char → Bool
  | [] => false
  | c :: s =>
    (c == '_' || isAlphabetic c)
      && s.all fun c => c == '_' || c == '.' || c == '[' || c == ']' || isAlphanumeric c

/-- A group with a name, from the name on. -/
def namedGroup? (p : Place) (s : List Char) : Option (Place × List Char) :=
  let letters := s.takeWhile (· != '>')
  let name := String.ofList letters
  match s.drop letters.length with
  | [] => none
  | _ :: rest =>
    if isGroupName letters && !p.names.contains name then
      some ({ p.enter p.flags with names := name :: p.names }, rest)
    else none

/-- The letters of flags and what they lead to: at a colon a group opens, at
a closing parenthesis they hold from there on. `seen` are the signs read so
far, last first. -/
def flagged? (p : Place) (flags : Flags) :
    (seen : List Char) → List Char → Option (Place × List Char)
  | _, [] => none
  | seen, c :: s =>
    if c = ':' then
      if seen.head? = some '-' then none else some (p.enter flags, s)
    else if c = ')' then
      if seen.isEmpty || seen.head? = some '-' then none
      else some ({ p with flags, repeatable := false }, s)
    else if seen.contains c then none
    else if c = '-' then flagged? p flags (c :: seen) s
    else if Flags.letters.contains c then
      flagged? p (flags.set c (!seen.contains '-')) (c :: seen) s
    else none

/-- **What an opening parenthesis leads to.** -/
def opened? (p : Place) (s : List Char) : Option (Place × List Char) :=
  match p.flags.skip s with
  | '?' :: 'P' :: '<' :: s => namedGroup? p s
  | '?' :: '<' :: s => namedGroup? p s
  | '?' :: s => flagged? p p.flags [] s
  | s => some (p.enter p.flags, s)

/-! ## Patterns -/

/-- **One token of a pattern** and the place behind it. Repetitions by number
are none, since their closing brace would have closed the directive. -/
def token? (p : Place) : List Char → Option (Place × List Char)
  | [] => none
  | c :: s =>
    let atom (a : Atom) (rest : List Char) : Option (Place × List Char) :=
      if p.flags.admits a then some (p.behindAtom, rest) else none
    if c = '(' then opened? p s
    else if c = ')' then p.leave?.map fun p => (p, s)
    else if c = '|' then some ({ p with repeatable := false }, s)
    else if c = '[' then (bracketed? p.flags s).map fun rest => (p.behindAtom, rest)
    else if c = '?' ∨ c = '*' ∨ c = '+' then
      if p.repeatable then
        match s with
        | '?' :: rest => some (p, rest)
        | rest => some (p, rest)
      else none
    else if c = '\x7b' then none
    else if c = '\\' then (escape? p.flags s).bind fun (a, rest) => atom a rest
    else if c = '.' then if p.flags.unicode then some (p.behindAtom, s) else none
    else if c = '^' ∨ c = '$' then atom .edge s
    else atom (.char c false) s

/-- Whether a text can stand behind a place of a pattern. -/
def isRest : (fuel : Nat) → Place → List Char → Bool
  | 0, _, _ => false
  | fuel + 1, p, s =>
    match p.flags.skip s with
    | [] => p.enclosing.isEmpty
    | s =>
      match token? p s with
      | none => false
      | some (p, rest) => isRest fuel p rest

/-- **Whether a text is a pattern.** Each token takes a character at least. -/
def isValid (s : List Char) : Bool := isRest (s.length + 1) {} s

end CallScope.Pattern
