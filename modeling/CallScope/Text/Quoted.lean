import CallScope.Text.Hidden

/-!
# Quoted text

Diagnostics show text between double quotes, written so that it can be
told apart from what stands around it: the quote and the backslash are
escaped, the common control characters have their letter, and any other
character without a visible form is spelled `\u{…}` with its code point in
lowercase hexadecimal. `Quoted.record` lays out a record of already
written fields, with `..` where more is held than is shown.
-/

namespace CallScope.Text.Quoted

/-- How a character is written between quotes. -/
def escape (c : Char) : List Char :=
  if c = '"' then ['\\', '"']
  else if c = '\\' then ['\\', '\\']
  else if c = '\n' then ['\\', 'n']
  else if c = '\r' then ['\\', 'r']
  else if c = '\t' then ['\\', 't']
  else if c = '\x00' then ['\\', '0']
  else if isHidden c then ['\\', 'u', '\x7b'] ++ Nat.toDigits 16 c.toNat ++ ['\x7d']
  else [c]

/-- **A text between quotes.** -/
def quote (s : String) : String :=
  String.ofList ('"' :: (s.toList.flatMap escape ++ ['"']))

/-- A record with named fields; `more` says that it holds more than is
shown. -/
def record (name : String) (fields : List (String × String)) (more : Bool) : String :=
  let shown := fields.map (fun f => f.1 ++ ": " ++ f.2) ++ (if more then [".."] else [])
  name ++ " \x7b " ++ String.intercalate ", " shown ++ " \x7d"

end CallScope.Text.Quoted
