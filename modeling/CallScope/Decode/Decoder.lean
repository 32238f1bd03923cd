import CallScope.Decode.Fault
import CallScope.Json.Draft.Reader

/-!
# Decoders

A decoder reads a value of some type off a draft. The same decoder serves
texts, values already in hand and configuration tables. The three differ
in little, and `Mode` is that little:

* a text read in one pass has room for so many nested containers only, and
  what it holds beyond what a type takes is a flaw of the text;
* a value in hand has been read in whole, so that a surplus is a mismatch
  like any other;
* a table passes over a surplus of array items.

Every decoder walks the draft in text order and stops at the first thing it
cannot use.
-/

namespace CallScope.Decode

open Json

/-- **How a draft is being read.** -/
inductive Mode where
  /-- In one pass over a text, with room for so many more containers. -/
  | streaming (room : Nat)
  /-- From a value that is in hand. -/
  | settled
  /-- From a configuration table. -/
  | table
deriving DecidableEq

/-- A decoder for `α`. -/
abbrev Decoder (α : Type) : Type := Mode → Draft → Except Fault α

namespace Mode

/-- How many more containers may be opened. -/
def room : Mode → Option Nat
  | .streaming room => some room
  | _ => none

/-- The mode within a container. -/
def enter : Mode → Except Fault Mode
  | .streaming 0 => .error (.flaw .malformed)
  | .streaming (room + 1) => .ok (.streaming room)
  | mode => .ok mode

end Mode

/-- Fail with a flaw of the text. -/
def flawed {α : Type} : Except Flaw α → Except Fault α
  | .ok a => .ok a
  | .error flaw => .error (.flaw flaw)

/-- Fail with a mismatch. -/
def mismatch {α : Type} (m : Mismatch) : Except Fault α := .error (.mismatch m)

/-- Fail because the draft holds another kind of value. -/
def reject {α : Type} (expected : String) (d : Draft) : Except Fault α :=
  match d.found with
  | .error flaw => .error (.flaw flaw)
  | .ok found => mismatch (.wrongType found expected)

/-- A decoded value, turned into another. -/
def Decoder.map {α β : Type} (f : α → β) (decode : Decoder α) : Decoder β :=
  fun mode d => (decode mode d).map f

/-! ## Scalars -/

/-- A string. -/
def string : Decoder String
  | _, .string (some s) => .ok s
  | _, d => reject "a string" d

/-- A truth value. -/
def bool : Decoder Bool
  | _, .bool b => .ok b
  | _, d => reject "a boolean" d

/-- An unsigned word; `expected` is its name in messages. -/
def word (expected : String) : Decoder UInt64
  | _, .number (some (.integer n)) =>
    match n.toUInt64? with
    | some w => .ok w
    | none => mismatch (.wrongValue (.integer n) expected)
  | _, d => reject expected d

/-- Nothing but `null`. -/
def unit : Decoder Unit
  | _, .null => .ok ()
  | _, d => reject "unit" d

/-- Any value. -/
def any : Decoder Value := fun mode d => flawed (d.value mode.room)

/-! ## Combinations -/

/-- `null`, or what the decoder reads. -/
def option {α : Type} (decode : Decoder α) : Decoder (Option α)
  | _, .null => .ok none
  | mode, d => (decode mode d).map some

/-- The items of an array in order. -/
def listItems {α : Type} (decode : Decoder α) (mode : Mode) (ending : Ending) :
    List Draft → Except Fault (List α)
  | [] => flawed (ending.read.map fun _ => [])
  | item :: rest =>
    match decode mode item with
    | .error fault => .error fault
    | .ok a => (listItems decode mode ending rest).map (a :: ·)

/-- An array of what the decoder reads. -/
def list {α : Type} (decode : Decoder α) : Decoder (List α)
  | mode, .array items ending =>
    match mode.enter with
    | .error fault => .error fault
    | .ok mode => listItems decode mode ending items
  | _, d => reject "a sequence" d

/-- The name of a member of an enumeration. -/
def named {α : Type} (known : List String) (pick : String → Option α) (name : String) :
    Except Fault α :=
  match pick name with
  | some a => .ok a
  | none => mismatch (.unknownVariant name known)

/-- What has to follow the one member of an object that names a member of
an enumeration, when the object is read in one pass. -/
def afterOnly (others : List (Option String × Draft)) : Ending → Except Fault Unit
  | .closed => if others.isEmpty then .ok () else .error (.flaw .malformed)
  | .cut afterComma reading _ =>
    .error (.flaw (if others.isEmpty && !afterComma then reading else .malformed))

/-- The plain name of a member of an enumeration. -/
def identifier {α : Type} (known : List String) (pick : String → Option α) : Decoder α
  | _, .string (some name) => named known pick name
  | _, d => reject "variant identifier" d

/-- **An enumeration** of names: one of them as a string, or as the only
key of an object whose value is `null`. -/
def enumeration {α : Type} (known : List String) (pick : String → Option α) : Decoder α
  | _, .string (some name) => named known pick name
  | mode, .object members ending =>
    match mode.enter with
    | .error fault => .error fault
    | .ok inner =>
      match mode, members with
      | .streaming _, [] =>
        match ending.read with
        | .error flaw => .error (.flaw flaw)
        | .ok () => .error (.flaw .malformed)
      | .streaming _, (none, _) :: _ => .error (.flaw .malformed)
      | .streaming _, (some name, value) :: others =>
        match named known pick name with
        | .error fault => .error fault
        | .ok a =>
          match unit inner value with
          | .error fault => .error fault
          | .ok () => (afterOnly others ending).map fun _ => a
      | _, [(some name, value)] =>
        match named known pick name with
        | .error fault => .error fault
        | .ok a => (unit inner value).map fun _ => a
      | _, _ => mismatch (.wrongValue .map "map with a single key")
  | .streaming _, .broken _ _ naming => .error (.flaw naming)
  | .streaming _, _ => .error (.flaw .malformed)
  | _, d => reject "string or map" d

/-- The first decoder that reads the draft. -/
def firstOf {α : Type} (d : Draft) : List (Decoder α) → Option α
  | [] => none
  | decode :: rest =>
    match decode .settled d with
    | .ok a => some a
    | .error _ => firstOf d rest

/-- **One of several forms**, told apart by nothing but which of them fits.
The draft is read in whole first, so a flaw anywhere in it comes before
the question of the form, and with repeated keys kept, which a form of
fixed fields does not admit. -/
def untagged {α : Type} (type : String) (forms : List (Decoder α)) : Decoder α :=
  fun mode d =>
    match d.value mode.room with
    | .error flaw => .error (.flaw flaw)
    | .ok _ =>
      match firstOf d forms with
      | some a => .ok a
      | none => mismatch (.noVariant type)

/-! ## Running a decoder -/

/-- **Decode a text**, which holds nothing else. -/
def Decoder.ofText {α : Type} (decode : Decoder α) (text : String) : Except Fault α :=
  let (draft, more) := Draft.ofText text
  match decode (.streaming nestingLimit) draft with
  | .error fault => .error fault
  | .ok a => if more then .error (.flaw .malformed) else .ok a

/-- **Decode a value.** -/
def Decoder.ofValue {α : Type} (decode : Decoder α) (v : Value) : Except Fault α :=
  decode .settled (.ofValue v)

end CallScope.Decode
