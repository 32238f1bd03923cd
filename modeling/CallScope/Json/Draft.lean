import CallScope.Json.Value

/-!
# Drafts of JSON values

A text is decoded in one pass from left to right, and of several problems
the first one met is reported. What counts as met depends on who reads:
a reader that expects a number stops at an opening bracket without looking
behind it, and a reader that has no use for a member skips its value with
fewer demands than one that wants it.

A `Draft` is a text read as far as it makes sense, with its flaws left
standing where they are. It is built once, without knowing who will read,
and every reader walks it in text order and stops at the first thing it
cannot use. Three places hold a flaw:

* `Draft.broken`, where no value can be made out;
* the `Ending` of a container that is not closed;
* a number or a string that is well formed but holds no value: too large
  for a double, or naming half of a surrogate pair. Skipping passes over
  those.

A draft without flaws is a value whose objects may repeat keys
(`Draft.ofValue`, `Draft.value`). How deep containers may nest is a
question of the reading, so `Draft.value` takes the number of containers
that may still be opened.
-/

namespace CallScope.Json

/-- Why a text is no JSON. -/
inductive Flaw where
  /-- Something stands where it cannot. -/
  | malformed
  /-- The text ends too early. -/
  | truncated
deriving DecidableEq

/-- What was found where something else was wanted. -/
inductive Found where
  | null
  | bool (b : Bool)
  | integer (n : Integer)
  | double (x : Double)
  | string (s : String)
  | sequence
  | map
deriving DecidableEq

/-- **How a container ends.** -/
inductive Ending where
  /-- Properly. -/
  | closed
  /-- Without its bracket. `afterComma` says that a comma came behind the
  last item or member; `reading` is the flaw met by a reader and `skipping`
  the one met when the container is passed over. -/
  | cut (afterComma : Bool) (reading skipping : Flaw)

/-- **A JSON text read as far as it makes sense.** -/
inductive Draft where
  | null
  | bool (b : Bool)
  /-- A number, absent if no finite double is near it. -/
  | number (n : Option Number)
  /-- A string, absent if it names half of a surrogate pair. -/
  | string (s : Option String)
  | array (items : List Draft) (ending : Ending)
  /-- The members in order, repeated keys included; a key is absent as a
  string is. -/
  | object (members : List (Option String × Draft)) (ending : Ending)
  /-- Nothing can be made out: the flaw met by a reader, by one who passes
  over the value, and by one who wants a name and would not look into a
  number or a literal. -/
  | broken (reading skipping naming : Flaw)
deriving Inhabited

namespace Ending

/-- What a reader that has taken everything before the ending meets. -/
def read : Ending → Except Flaw Unit
  | .closed => .ok ()
  | .cut _ reading _ => .error reading

/-- What is met when the container is passed over. -/
def skip : Ending → Except Flaw Unit
  | .closed => .ok ()
  | .cut _ _ skipping => .error skipping

end Ending

namespace Draft

/-- What a reader meets that has no use for this kind of value. A container
is recognised by its bracket alone. -/
def found : Draft → Except Flaw Found
  | .null => .ok .null
  | .bool b => .ok (.bool b)
  | .number (some (.integer n)) => .ok (.integer n)
  | .number (some (.double x _)) => .ok (.double x)
  | .number none => .error .malformed
  | .string (some s) => .ok (.string s)
  | .string none => .error .malformed
  | .array _ _ => .ok .sequence
  | .object _ _ => .ok .map
  | .broken reading _ _ => .error reading

/-! ## Passing over a value -/

mutual
/-- **Passing over a value**: only what keeps the text from going on is a
flaw. -/
def skip : Draft → Except Flaw Unit
  | .array items ending => skipItems items ending
  | .object members ending => skipMembers members ending
  | .broken _ skipping _ => .error skipping
  | _ => .ok ()

/-- Passing over the items of an array and its ending. -/
def skipItems : List Draft → Ending → Except Flaw Unit
  | [], ending => ending.skip
  | item :: rest, ending =>
    match item.skip with
    | .error flaw => .error flaw
    | .ok () => skipItems rest ending

/-- Passing over the members of an object and its ending. -/
def skipMembers : List (Option String × Draft) → Ending → Except Flaw Unit
  | [], ending => ending.skip
  | (_, value) :: rest, ending =>
    match value.skip with
    | .error flaw => .error flaw
    | .ok () => skipMembers rest ending
end

/-! ## Drafts and values -/

/-- One container fewer may be opened; `none` puts no bound on them. -/
def enter : Option Nat → Except Flaw (Option Nat)
  | none => .ok none
  | some 0 => .error .malformed
  | some (room + 1) => .ok (some room)

mutual
/-- **The value of a draft**, with `room` for that many nested containers,
or the first flaw met. -/
def value (room : Option Nat) : Draft → Except Flaw Value
  | .null => .ok .null
  | .bool b => .ok (.bool b)
  | .number (some n) => .ok (.number n)
  | .number none => .error .malformed
  | .string (some s) => .ok (.string s)
  | .string none => .error .malformed
  | .array items ending =>
    match enter room with
    | .error flaw => .error flaw
    | .ok room => (itemValues room items ending).map .array
  | .object members ending =>
    match enter room with
    | .error flaw => .error flaw
    | .ok room => (memberValues room members ending []).map .object
  | .broken reading _ _ => .error reading

/-- The values of an array's items. -/
def itemValues (room : Option Nat) : List Draft → Ending → Except Flaw (List Value)
  | [], ending => ending.read.map fun _ => []
  | item :: rest, ending =>
    match item.value room with
    | .error flaw => .error flaw
    | .ok v => (itemValues room rest ending).map (v :: ·)

/-- The members of an object on top of those met before. -/
def memberValues (room : Option Nat) : List (Option String × Draft) → Ending →
    List (String × Value) → Except Flaw (List (String × Value))
  | [], ending, before => ending.read.map fun _ => before
  | (none, _) :: _, _, _ => .error .malformed
  | (some key, item) :: rest, ending, before =>
    match item.value room with
    | .error flaw => .error flaw
    | .ok v => memberValues room rest ending (Value.insertMember key v before)
end

mutual
/-- **A value as a draft** without flaws. -/
def ofValue : Value → Draft
  | .null => .null
  | .bool b => .bool b
  | .number n => .number (some n)
  | .string s => .string (some s)
  | .array items => .array (ofItems items) .closed
  | .object members => .object (ofMembers members) .closed

/-- The items of an array as drafts. -/
def ofItems : List Value → List Draft
  | [] => []
  | item :: rest => ofValue item :: ofItems rest

/-- The members of an object as drafts. -/
def ofMembers : List (String × Value) → List (Option String × Draft)
  | [] => []
  | (key, value) :: rest => (some key, ofValue value) :: ofMembers rest
end

end Draft
end CallScope.Json
