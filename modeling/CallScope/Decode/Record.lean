import CallScope.Decode.Decoder

/-!
# Records

A record is written as an object of its fields or as an array of them in
their declared order. In an object, unknown keys are passed over, a known
key may come once, and which fields are missing is asked at the end. In an
array, fields that have a default may be left out at the end and nothing
may follow the last one.

`Record` describes both forms at once: its slots say how each field is
read and kept, and `build` turns what was kept into the value, or names the
first field that is missing. `σ` is what is kept while reading, one
optional entry a field.
-/

namespace CallScope.Decode

open Json

/-- **A field** of a record that keeps its entries in `σ`. -/
structure Slot (σ : Type) where
  /-- The key of the field in an object. -/
  key : String
  /-- Whether an array may end before the field. -/
  optional : Bool
  /-- Whether the entry is there already. -/
  filled : σ → Bool
  /-- Read the entry. -/
  fill : Mode → Draft → σ → Except Fault σ

/-- A field read by a decoder, with the entry it fills. -/
def slot {σ α : Type} (key : String) (optional : Bool) (decode : Decoder α)
    (entry : σ → Option α) (set : α → σ → σ) : Slot σ where
  key := key
  optional := optional
  filled := fun s => (entry s).isSome
  fill := fun mode d s => (decode mode d).map fun a => set a s

/-- **A record**: its name in messages, its fields in order, what is kept
before any is read, and the value that comes of what was kept. -/
structure Record (σ α : Type) where
  name : String
  slots : List (Slot σ)
  blank : σ
  build : σ → Except Fault α

/-- The entry of a field that has to be there. -/
def required {α : Type} (key : String) : Option α → Except Fault α
  | some a => .ok a
  | none => mismatch (.missingField key)

namespace Record

variable {σ α : Type}

/-- Fill the slots from the members of an object, in the members' order. -/
def fillMembers (r : Record σ α) (mode : Mode) (ending : Ending) :
    List (Option String × Draft) → σ → Except Fault σ
  | [], kept => flawed (ending.read.map fun _ => kept)
  | (none, _) :: _, _ => .error (.flaw .malformed)
  | (some key, value) :: rest, kept =>
    match r.slots.find? (fun slot => slot.key == key) with
    | none =>
      match value.skip with
      | .error flaw => .error (.flaw flaw)
      | .ok () => fillMembers r mode ending rest kept
    | some slot =>
      if slot.filled kept then mismatch (.duplicateField key)
      else match slot.fill mode value kept with
        | .error fault => .error fault
        | .ok kept => fillMembers r mode ending rest kept

/-- What the items of an array beyond the last field lead to: `total` is
the number of all items. -/
def surplus (total : Nat) (mode : Mode) : List Draft → Ending → Except Fault Unit
  | [], .closed => .ok ()
  | [], .cut afterComma reading _ =>
    .error (.flaw (if afterComma then .malformed else reading))
  | _ :: _, _ =>
    match mode with
    | .streaming _ => .error (.flaw .malformed)
    | .settled => mismatch (.wrongLength total "fewer elements in array")
    | .table => .ok ()

/-- How messages name the array form of a record. -/
def arrayForm (r : Record σ α) : String :=
  "struct " ++ r.name ++ " with " ++ toString r.slots.length ++ " elements"

/-- Fill the slots from the items of an array, in the slots' order. `index`
counts the slots before these. -/
def fillItems (r : Record σ α) (mode : Mode) (ending : Ending) (total index : Nat) :
    List (Slot σ) → List Draft → σ → Except Fault σ
  | [], items, kept => (surplus total mode items ending).map fun _ => kept
  | slot :: slots, [], kept =>
    match ending.read with
    | .error flaw => .error (.flaw flaw)
    | .ok () =>
      if slot.optional then fillItems r mode ending total (index + 1) slots [] kept
      else mismatch (.wrongLength index r.arrayForm)
  | slot :: slots, item :: items, kept =>
    match slot.fill mode item kept with
    | .error fault => .error fault
    | .ok kept => fillItems r mode ending total (index + 1) slots items kept

/-- **Decode a record** in either form. -/
def decode (r : Record σ α) : Decoder α
  | mode, .object members ending =>
    match mode.enter with
    | .error fault => .error fault
    | .ok inner =>
      match r.fillMembers inner ending members r.blank with
      | .error fault => .error fault
      | .ok kept => r.build kept
  | mode, .array items ending =>
    match mode.enter with
    | .error fault => .error fault
    | .ok inner =>
      match r.fillItems inner ending items.length 0 r.slots items r.blank with
      | .error fault => .error fault
      | .ok kept => r.build kept
  | _, d => reject ("struct " ++ r.name) d

/-- Decode a record written as an object only. -/
def decodeObject (r : Record σ α) (expected : String) : Decoder α
  | mode, .object members ending => r.decode mode (.object members ending)
  | _, d => reject expected d

end Record
end CallScope.Decode
