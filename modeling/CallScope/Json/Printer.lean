import CallScope.Json.Value
import CallScope.Double.Text
import CallScope.Text.Utf8

/-!
# Writing JSON

A value is written in one of two layouts. The **compact** one has no space
anywhere and leaves every character as it is that JSON does not force into
an escape. The **spaced** one puts a space behind each comma and colon and
writes every character beyond ASCII as an escape of its UTF-16 units, so
that its texts consist of printable ASCII and the delete character alone.
`Value.indented` writes one item a line for a reader at a terminal.

Members are written in the order the object holds them.
-/

namespace CallScope.Json

/-- Four lowercase hexadecimal digits. -/
def hexDigits (n : Nat) : List Char :=
  [Nat.digitChar (n / 4096 % 16), Nat.digitChar (n / 256 % 16),
    Nat.digitChar (n / 16 % 16), Nat.digitChar (n % 16)]

/-- The escape of a UTF-16 unit. -/
def unitEscape (n : Nat) : List Char := '\\' :: 'u' :: hexDigits n

/-- The characters with a short escape, each with the letter behind the
backslash. -/
def shortEscapes : List (Char × Char) := [
  ('"', '"'), ('\\', '\\'), ('\x08', 'b'), ('\x0c', 'f'), ('\n', 'n'), ('\r', 'r'), ('\t', 't')]

/-- The escape that JSON forces on a character, if it does. -/
def forcedEscape? (c : Char) : Option (List Char) :=
  match shortEscapes.lookup c with
  | some letter => some ['\\', letter]
  | none => if c.toNat < 0x20 then some (unitEscape c.toNat) else none

/-! ## Fragments in ASCII -/

/-- The UTF-16 units of a character, two where it takes a surrogate pair. -/
def utf16Units (c : Char) : List Nat :=
  let n := c.toNat
  if n < 0x10000 then [n]
  else [0xD800 + (n - 0x10000) / 0x400, 0xDC00 + (n - 0x10000) % 0x400]

/-- An ASCII character as it is, and any other by its UTF-16 units. -/
def asciiChar (c : Char) : List Char :=
  if c.toNat < 0x80 then [c] else (utf16Units c).flatMap unitEscape

/-- **A fragment in ASCII**, from the byte `start` on, when everything before
the byte `here` has been looked at. The pieces between characters beyond
ASCII are taken over whole. There is no text if a piece would begin or end
within a character. -/
def asciiFrom? (fragment : List Char) (start here : Nat) : List Char → Option (List Char)
  | [] => Text.Utf8.drop? start fragment
  | c :: rest =>
    let behind := here + c.utf8Size
    if c.toNat < 0x80 then asciiFrom? fragment start behind rest
    else
      match Text.Utf8.part? start here fragment with
      | none => none
      | some piece => (asciiFrom? fragment behind behind rest).map fun text =>
          piece ++ (utf16Units c).flatMap unitEscape ++ text

/-- The pieces begin and end between characters. -/
theorem asciiFrom?_append (before piece rest : List Char) (h : ∀ c ∈ piece, c.toNat < 0x80) :
    asciiFrom? (before ++ (piece ++ rest)) (Text.Utf8.size before)
        (Text.Utf8.size before + Text.Utf8.size piece) rest
      = some (piece ++ rest.flatMap asciiChar) := by
  induction rest generalizing before piece with
  | nil =>
    rw [asciiFrom?, Text.Utf8.drop?_size_append]
    rfl
  | cons c rest ih =>
    rw [asciiFrom?, List.flatMap_cons, asciiChar]
    split
    · rename_i hc
      have hpiece : ∀ x ∈ piece ++ [c], x.toNat < 0x80 := fun x hx =>
        (List.mem_append.mp hx).elim (h x) fun hx => by rwa [List.mem_singleton.mp hx]
      have hrest := ih before (piece ++ [c]) hpiece
      rw [Text.Utf8.size_append, Text.Utf8.size_cons, Text.Utf8.size_nil, Nat.add_zero,
        ← Nat.add_assoc, List.append_assoc, List.append_assoc] at hrest
      exact hrest
    · have hrest := ih (before ++ (piece ++ [c])) [] (by simp)
      rw [Text.Utf8.size_append, Text.Utf8.size_append, Text.Utf8.size_cons, Text.Utf8.size_nil,
        Nat.add_zero, Nat.add_zero, ← Nat.add_assoc, List.nil_append, List.nil_append,
        List.append_assoc, List.append_assoc, List.singleton_append] at hrest
      rw [Text.Utf8.part?_append]
      dsimp only
      rw [hrest, Option.map_some, List.append_assoc]

/-- **A fragment in ASCII.** -/
def asciiFragment (fragment : List Char) : List Char :=
  (asciiFrom? fragment 0 0 fragment).get (by
    have h := asciiFrom?_append [] [] fragment (by simp)
    simp only [List.nil_append, Text.Utf8.size_nil] at h
    rw [h]
    rfl)

/-! ## Layouts -/

/-- **A layout**: what separates items and what follows a key, and how a
fragment is written, a piece of a string in which JSON forces no character
into an escape. -/
structure Layout where
  comma : List Char
  colon : List Char
  fragment : List Char → List Char

/-- No spaces, fragments as they are. -/
def Layout.compact : Layout := ⟨[','], [':'], id⟩

/-- A space behind commas and colons, ASCII only. -/
def Layout.spaced : Layout := ⟨[',', ' '], [':', ' '], asciiFragment⟩

/-- The characters of a string, fragment by fragment. `before` are those of
the fragment that have been read, last first. -/
def Layout.contents (layout : Layout) (before : List Char) : List Char → List Char
  | [] => layout.fragment before.reverse
  | c :: s =>
    match forcedEscape? c with
    | some escape => layout.fragment before.reverse ++ escape ++ layout.contents [] s
    | none => layout.contents (c :: before) s

/-- A string between its quotes. -/
def Layout.quote (layout : Layout) (s : String) : List Char :=
  '"' :: (layout.contents [] s.toList ++ ['"'])

/-- The text of a number. -/
def Number.text : Number → List Char
  | .integer n => (if n.val < 0 then ['-'] else []) ++ Nat.toDigits 10 n.val.natAbs
  | .double x _ => x.jsonText

namespace Value

mutual
/-- **The text of a value** in a layout. -/
def write (layout : Layout) : Value → List Char
  | .null => ['n', 'u', 'l', 'l']
  | .bool true => ['t', 'r', 'u', 'e']
  | .bool false => ['f', 'a', 'l', 's', 'e']
  | .number n => n.text
  | .string s => layout.quote s
  | .array [] => ['[', ']']
  | .array (item :: rest) => '[' :: (write layout item ++ writeItems layout rest)
  | .object [] => ['\x7b', '\x7d']
  | .object ((key, value) :: rest) =>
    '\x7b' :: (layout.quote key ++ layout.colon ++ write layout value ++ writeMembers layout rest)

/-- The items behind the first, each with its comma, and the bracket. -/
def writeItems (layout : Layout) : List Value → List Char
  | [] => [']']
  | item :: rest => layout.comma ++ write layout item ++ writeItems layout rest

/-- The members behind the first, each with its comma, and the bracket. -/
def writeMembers (layout : Layout) : List (String × Value) → List Char
  | [] => ['\x7d']
  | (key, value) :: rest =>
    layout.comma ++ layout.quote key ++ layout.colon ++ write layout value
      ++ writeMembers layout rest
end

/-- The compact text of a value. -/
def compact (v : Value) : String := String.ofList (v.write .compact)

/-- The spaced text of a value. -/
def spaced (v : Value) : String := String.ofList (v.write .spaced)

/-! ## One item a line -/

/-- A new line at a depth, two spaces a level. -/
def newLine (depth : Nat) : List Char := '\n' :: List.replicate (2 * depth) ' '

mutual
/-- The text of a value with one item a line, containers holding nothing
excepted. -/
def writeIndented (depth : Nat) : Value → List Char
  | .array (item :: rest) =>
    '[' :: (newLine (depth + 1) ++ writeIndented (depth + 1) item
      ++ writeIndentedItems depth rest)
  | .object ((key, value) :: rest) =>
    '\x7b' :: (newLine (depth + 1) ++ Layout.compact.quote key ++ [':', ' ']
      ++ writeIndented (depth + 1) value ++ writeIndentedMembers depth rest)
  | v => v.write .compact

/-- The items behind the first of an array that stands at a depth. -/
def writeIndentedItems (depth : Nat) : List Value → List Char
  | [] => newLine depth ++ [']']
  | item :: rest =>
    ',' :: (newLine (depth + 1) ++ writeIndented (depth + 1) item
      ++ writeIndentedItems depth rest)

/-- The members behind the first of an object that stands at a depth. -/
def writeIndentedMembers (depth : Nat) : List (String × Value) → List Char
  | [] => newLine depth ++ ['\x7d']
  | (key, value) :: rest =>
    ',' :: (newLine (depth + 1) ++ Layout.compact.quote key ++ [':', ' ']
      ++ writeIndented (depth + 1) value ++ writeIndentedMembers depth rest)
end

/-- The text of a value for a reader at a terminal. -/
def indented (v : Value) : String := String.ofList (writeIndented 0 v)

end Value
end CallScope.Json
