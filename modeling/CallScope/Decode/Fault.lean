import CallScope.Json.Draft
import CallScope.Json.Printer
import CallScope.Text.Quoted

/-!
# Why decoding fails

Decoding fails because the text has a flaw, or because what it says does
not fit the type that was asked for. The second kind has a wording that
names what was found and what was wanted; the first has none beyond its
kind.
-/

namespace CallScope

open Json

/-- The wording of what was found. -/
def Json.Found.text : Found → String
  | .null => "null"
  | .bool b => "boolean `" ++ (if b then "true" else "false") ++ "`"
  | .integer n => "integer `" ++ String.ofList (Number.text (.integer n)) ++ "`"
  | .double x => "floating point `" ++ String.ofList x.jsonText ++ "`"
  | .string s => "string " ++ Text.Quoted.quote s
  | .sequence => "sequence"
  | .map => "map"

namespace Decode

/-- **How a text that is JSON fails to fit a type.** -/
inductive Mismatch where
  /-- A name that none of the known ones is. -/
  | unknownVariant (name : String) (known : List String)
  | missingField (key : String)
  | duplicateField (key : String)
  /-- A value of another kind than the expected one. -/
  | wrongType (found : Found) (expected : String)
  /-- A value of the right kind but out of range. -/
  | wrongValue (found : Found) (expected : String)
  /-- An array with too few or too many items. -/
  | wrongLength (length : Nat) (expected : String)
  /-- A value that fits none of the forms of a type. -/
  | noVariant (type : String)
deriving DecidableEq

/-- A name between backticks. -/
def ticked (name : String) : String := "`" ++ name ++ "`"

/-- The wording of the names that would have been known. -/
def oneOf : List String → String
  | [] => "there are no variants"
  | [a] => "expected " ++ ticked a
  | [a, b] => "expected " ++ ticked a ++ " or " ++ ticked b
  | names => "expected one of " ++ String.intercalate ", " (names.map ticked)

/-- **The wording of a mismatch.** -/
def Mismatch.message : Mismatch → String
  | .unknownVariant name known => "unknown variant " ++ ticked name ++ ", " ++ oneOf known
  | .missingField key => "missing field " ++ ticked key
  | .duplicateField key => "duplicate field " ++ ticked key
  | .wrongType found expected => "invalid type: " ++ found.text ++ ", expected " ++ expected
  | .wrongValue found expected => "invalid value: " ++ found.text ++ ", expected " ++ expected
  | .wrongLength length expected =>
    "invalid length " ++ toString length ++ ", expected " ++ expected
  | .noVariant type => "data did not match any variant of untagged enum " ++ type

/-- **Why decoding fails.** -/
inductive Fault where
  | flaw (flaw : Flaw)
  | mismatch (mismatch : Mismatch)
deriving DecidableEq

end Decode
end CallScope
