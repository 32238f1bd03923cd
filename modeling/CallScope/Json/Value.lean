import CallScope.Double

/-!
# JSON values

Payloads, messages and tool calls are JSON. A number is an integer or a
double and the two never mix: `1` and `1.0` are different values. Integers
cover the signed and the unsigned 64-bit range together; doubles are
finite, a JSON text having no way to write the others. Both conditions sit
in the types.

An object is the list of its members in the order they were received, and
`Value.get?` reads the first with a given key. `Value.insertMember` is how
objects come about: a key that is met again takes the new value in its old
place, so an object built by it has no key twice.
-/

namespace CallScope.Json

/-- **An integer of a JSON text**: at least the smallest signed and at most
the largest unsigned 64-bit integer. -/
structure Integer where
  val : Int
  lower : -(2 ^ 63) ≤ val
  upper : val < 2 ^ 64
deriving DecidableEq

namespace Integer

/-- The integer, if it is in range. -/
def ofInt? (n : Int) : Option Integer :=
  if h : -(2 ^ 63) ≤ n ∧ n < 2 ^ 64 then some ⟨n, h.1, h.2⟩ else none

/-- An unsigned word as an integer. -/
def ofUInt64 (n : UInt64) : Integer :=
  ⟨n.toNat, by omega, by have := n.toNat_lt; omega⟩

/-- A signed word as an integer. -/
def ofInt64 (n : Int64) : Integer :=
  ⟨n.toInt, by have := n.le_toInt; omega, by have := n.toInt_lt; omega⟩

/-- The integer as an unsigned word, if it is not negative. -/
def toUInt64? (n : Integer) : Option UInt64 :=
  if 0 ≤ n.val then some (UInt64.ofNat n.val.toNat) else none

/-- The integer as a signed word, if it is small enough. -/
def toInt64? (n : Integer) : Option Int64 :=
  if n.val < 2 ^ 63 then some (Int64.ofInt n.val) else none

@[simp] theorem toUInt64?_ofUInt64 (n : UInt64) : (ofUInt64 n).toUInt64? = some n := by
  simp [ofUInt64, toUInt64?]

@[simp] theorem toInt64?_ofInt64 (n : Int64) : (ofInt64 n).toInt64? = some n := by
  have := n.toInt_lt
  simp [ofInt64, toInt64?, show n.toInt < 9223372036854775808 from by omega]

end Integer

/-- **A JSON number.** -/
inductive Number where
  /-- Written without point and exponent. -/
  | integer (n : Integer)
  /-- Any other number; never infinite. -/
  | double (x : Double) (finite : x.isFinite = true)
deriving DecidableEq

namespace Number

/-- The double nearest to a number. -/
def toDouble : Number → Double
  | .integer n => .ofInt n.val
  | .double x _ => x

/-- The number as an unsigned word, if it is such an integer. -/
def toUInt64? : Number → Option UInt64
  | .integer n => n.toUInt64?
  | .double _ _ => none

/-- The number as a signed word, if it is such an integer. -/
def toInt64? : Number → Option Int64
  | .integer n => n.toInt64?
  | .double _ _ => none

end Number

/-- **A JSON value.** -/
inductive Value where
  | null
  | bool (b : Bool)
  | number (n : Number)
  | string (s : String)
  | array (items : List Value)
  | object (members : List (String × Value))
deriving Inhabited

namespace Value

/-- An unsigned word as a number. -/
def ofUInt64 (n : UInt64) : Value := .number (.integer (.ofUInt64 n))

/-- A signed word as a number. -/
def ofInt64 (n : Int64) : Value := .number (.integer (.ofInt64 n))

/-- A double as a number; doubles that no text can write become `null`. -/
def ofDouble (x : Double) : Value :=
  if h : x.isFinite = true then .number (.double x h) else .null

/-- `null` for an absent value. -/
def ofOption {α : Type} (encode : α → Value) : Option α → Value
  | none => .null
  | some a => encode a

/-- The member of an object under a key; other values have no members. -/
def get? (key : String) : Value → Option Value
  | .object members => members.lookup key
  | _ => none

/-- The item of an array at a position. -/
def item? (index : Nat) : Value → Option Value
  | .array items => items[index]?
  | _ => none

/-- The text of a string. -/
def string? : Value → Option String
  | .string s => some s
  | _ => none

/-- The members with one more: under a key already there, the new value
takes the place of the old. -/
def insertMember (key : String) (value : Value) :
    List (String × Value) → List (String × Value)
  | [] => [(key, value)]
  | (k, v) :: rest => if k = key then (k, value) :: rest else (k, v) :: insertMember key value rest

/-- **Whether a value says anything**: all do but `null`, `false`, zero and
what is empty. -/
def truthy : Value → Bool
  | .null => false
  | .bool b => b
  | .number n => !n.toDouble.isZero
  | .string s => !s.isEmpty
  | .array items => !items.isEmpty
  | .object members => !members.isEmpty

end Value
end CallScope.Json
