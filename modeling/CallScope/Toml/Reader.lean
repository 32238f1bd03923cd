import CallScope.Toml.Scan

/-!
# Reading a configuration text

`Members.ofText?` reads a TOML text into a document, or refuses it: the
lines before the first header belong to the document itself, the lines
behind a header to the table of that header. What the lines then amount to
is told in `Toml.Node`.
-/

namespace CallScope.Toml

namespace Scan

/-! ## Values -/

/-- The items of an array from a place on where one may stand. An item may
be surrounded by lines of blanks and comments, and a comma may follow the
last one. -/
def items? (item? : List Char → Scanned Node) (before : List Node) (s : List Char) :
    Scanned (List Node) :=
  match skipLines? s with
  | none => none
  | some (']' :: rest) => some (before.reverse, rest)
  | some start =>
    match item? start with
    | none => none
    | some (node, rest) =>
      match skipLines? rest with
      | some (']' :: rest) => some ((node :: before).reverse, rest)
      | some (',' :: rest) =>
        if rest.length < s.length then items? item? (node :: before) rest else none
      | _ => none
termination_by s.length

/-- A key with its value. -/
def entry? (value? : List Char → Scanned Node) (s : List Char) : Scanned Entry :=
  match dottedKey? s with
  | some ((path, key), '=' :: rest) =>
    (value? (skipBlanks rest)).map fun (node, rest) => (⟨path, key, node⟩, rest)
  | _ => none

/-- The entries of a table that is written as a value, from a place on
where one has to stand. All of them stand on one line. -/
def inlineEntries? (value? : List Char → Scanned Node) (before : List Entry) (s : List Char) :
    Scanned (List Entry) :=
  match entry? value? s with
  | none => none
  | some (entry, rest) =>
    match skipBlanks rest with
    | '\x7d' :: rest => some ((entry :: before).reverse, rest)
    | ',' :: rest =>
      if rest.length < s.length then inlineEntries? value? (entry :: before) rest else none
    | _ => none
termination_by s.length

/-- A table that is written as a value, behind its opening brace. -/
def inlineTable? (value? : List Char → Scanned Node) (s : List Char) : Scanned Node :=
  match skipBlanks s with
  | '\x7d' :: rest => some (.inline [], rest)
  | start =>
    match inlineEntries? value? [] start with
    | some (entries, rest) =>
      (Members.addEntries [] entries).map fun members => (.inline members, rest)
    | none => none

/-- **A value** with room for that many nested ones. -/
def value? : Nat → List Char → Scanned Node
  | room, '[' :: rest =>
    match room with
    | 0 => none
    | room + 1 => (items? (value? room) [] rest).map fun (items, rest) => (.array items, rest)
  | room, '\x7b' :: rest =>
    match room with
    | 0 => none
    | room + 1 => inlineTable? (value? room) rest
  | _, s => scalar? s

/-! ## Lines -/

/-- The lines of a table: all up to the next header. -/
def entries? (before : List Entry) (s : List Char) : Scanned (List Entry) :=
  match skipLines? s with
  | none => none
  | some [] => some (before.reverse, [])
  | some ('[' :: rest) => some (before.reverse, '[' :: rest)
  | some start =>
    match entry? (value? (depthLimit - 1)) start with
    | none => none
    | some (entry, rest) =>
      match closeLine? rest with
      | none => none
      | some rest =>
        if rest.length < s.length then entries? (entry :: before) rest else none
termination_by s.length

/-- The header of a section, behind its first bracket. -/
def header? : List Char → Scanned Header
  | '[' :: rest =>
    match dottedKey? rest with
    | some ((path, key), ']' :: ']' :: rest) =>
      (closeLine? rest).map fun rest => (⟨path, key, true⟩, rest)
    | _ => none
  | rest =>
    match dottedKey? rest with
    | some ((path, key), ']' :: rest) =>
      (closeLine? rest).map fun rest => (⟨path, key, false⟩, rest)
    | _ => none

/-- The sections of a text that begins with a header. -/
def blocks? (before : List Block) (s : List Char) : Option (List Block) :=
  match s with
  | [] => some before.reverse
  | _ :: s =>
    match header? s with
    | none => none
    | some (header, rest) =>
      match entries? [] rest with
      | none => none
      | some (entries, rest) =>
        if rest.length ≤ s.length then blocks? (⟨header, entries⟩ :: before) rest else none
termination_by s.length
decreasing_by
  simp only [List.length_cons]; omega

/-- The text behind a byte order mark. -/
def skipMark : List Char → List Char
  | '\uFEFF' :: rest => rest
  | s => s

end Scan

/-- **The document of a text**, unless it is refused. -/
def Members.ofText? (text : String) : Option Members :=
  match Scan.entries? [] (Scan.skipMark text.toList) with
  | none => none
  | some (entries, rest) =>
    match Scan.blocks? [] rest with
    | none => none
    | some blocks => ofBlocks entries blocks

end CallScope.Toml
