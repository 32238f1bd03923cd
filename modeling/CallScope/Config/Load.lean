import CallScope.Config
import CallScope.Error
import CallScope.Text.Utf8
import CallScope.Toml.Reader

/-!
# Loading a configuration

A configuration file holds UTF-8 text in one of two formats. The extension
of its name says which; under any other name, or none, the text is read as
JSON and, if that fails for whatever reason, as TOML.

What is loaded is checked for one condition beyond the types: every
instrument has a name that is not blank. A text that is JSON and fails the
check is not tried as TOML.
-/

namespace CallScope

open Json Decode

namespace Config

/-- **The formats of a configuration file.** -/
inductive Format where
  | json
  | toml
  /-- JSON, or else TOML. -/
  | either
deriving DecidableEq

/-- The last part of a path. Separators and single points at its end do not
count. -/
def fileName (path : String) : List Char :=
  let parts := path.toList.splitOn '/'
  (parts.reverse.dropWhile fun part => part.isEmpty || part == ['.']).headD []

/-- What follows the last point of a name, if something stands before that
point. -/
def extension? (name : List Char) : Option (List Char) :=
  let behind := (name.reverse.takeWhile (· != '.')).reverse
  if name.length ≤ behind.length + 1 then none else some behind

/-- **The format that a path names.** -/
def Format.ofPath (path : String) : Format :=
  match extension? (fileName path) with
  | some ext =>
    if ext = "json".toList then .json
    else if ext = "toml".toList then .toml
    else .either
  | none => .either

/-- Read a configuration as JSON. -/
def ofJson (text : String) : Except Error Config :=
  match decode.ofText text with
  | .ok config => .ok config
  | .error fault => .error (.decode fault)

/-- What is wrong with a text that is not TOML, or with TOML that is no
configuration. -/
def notToml : Error := .config "TOML parse error"

/-- Read a configuration as TOML. -/
def ofToml (text : String) : Except Error Config :=
  match Toml.Members.ofText? text with
  | none => .error notToml
  | some members =>
    match decode .table members.draft with
    | .ok config => .ok config
    | .error _ => .error notToml

/-- Read a configuration in a format. -/
def ofText (format : Format) (text : String) : Except Error Config :=
  match format with
  | .json => ofJson text
  | .toml => ofToml text
  | .either =>
    match ofJson text with
    | .ok config => .ok config
    | .error _ => ofToml text

/-- **The condition on a configuration that is loaded.** -/
def check (config : Config) : Except Error Config :=
  if config.metrics.allNamed then .ok config
  else .error (.config "metric names must not be empty")

/-- **Load a configuration** from the bytes of a file, absent if there is no
such file. -/
def load (path : String) : Option (List UInt8) → Except Error Config
  | none => .error (.file "NotFound")
  | some bytes =>
    match Text.Utf8.decode bytes with
    | .error fault => .error (.config (path ++ ": " ++ fault.message))
    | .ok text =>
      match ofText (.ofPath path) text with
      | .error error => .error error
      | .ok config => config.check

end Config
end CallScope
