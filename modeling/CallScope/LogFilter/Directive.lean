import CallScope.LogFilter.Pattern
import CallScope.Telemetry.SpanBackend
import CallScope.Text.Utf8

/-!
# Directives of log filters

A directive gives a level to what it matches:

* `info` – a level for everything;
* `target=info` – a level for what belongs to targets that begin like this;
* `target[span{field=value}]=info` – the same for spans of that name with
  that field; target, name, field and value may each be left out.

Without a level it lets everything through that it matches. The value is a
number, a truth value or a pattern.

Where the parts of a directive lie is found with the blanks around it taken
off, but the parts are then cut out of the text as it stands. So blanks before
a directive move all of its parts forward by as many bytes. It may still be
readable, though hardly as what was meant; and where a cut would go through a
character, there is no going on.
-/

namespace CallScope

/-- **How much is let through**, from nothing to everything. -/
inductive Verbosity where
  | off
  | error
  | warn
  | info
  | debug
  | trace
deriving DecidableEq

namespace Verbosity

/-- All levels with their names, in increasing order. -/
def names : List (String × Verbosity) := [
  ("off", .off), ("error", .error), ("warn", .warn), ("info", .info), ("debug", .debug),
  ("trace", .trace)]

/-- The place of a level in the order. -/
def rank : Verbosity → Nat
  | .off => 0
  | .error => 1
  | .warn => 2
  | .info => 3
  | .debug => 4
  | .trace => 5

/-- **The level with a name**, in any case of letters, or with a number. -/
def ofText? (s : List Char) : Option Verbosity :=
  let digits := match s with
    | '+' :: rest => rest
    | s => s
  if !digits.isEmpty && digits.all Text.Numeral.isDigit then
    (names[Text.Numeral.ofDigits digits]?).map Prod.snd
  else
    names.lookup (String.ofList (s.map Char.toLower))

end Verbosity

/-- A field that a directive asks for, and whether it asks for a value. -/
structure FieldFilter where
  name : String
  hasValue : Bool
deriving DecidableEq

/-- **A directive.** -/
structure Directive where
  level : Verbosity
  /-- What the target has to begin with. -/
  target : Option String
  /-- The name of the span. -/
  span : Option String
  field : Option FieldFilter
deriving DecidableEq

namespace Directive

/-! ## Reading -/

/-- Why a text gives no directive. -/
inductive Trouble where
  /-- It is none. -/
  | unreadable
  /-- A part of it would begin or end within a character. -/
  | torn
deriving DecidableEq

/-- The part of a text between two bytes. -/
def part (text : List Char) (start stop : Nat) : Except Trouble (List Char) :=
  match Text.Utf8.part? start stop text with
  | some part => .ok part
  | none => .error .torn

/-- The level that a text ends with, from a byte on; none given means
everything. -/
def levelFrom (text : List Char) (start : Nat) : Except Trouble Verbosity :=
  match Text.Utf8.drop? start text with
  | none => .error .torn
  | some [] => .ok .trace
  | some word =>
    match Verbosity.ofText? word with
    | some level => .ok level
    | none => .error .unreadable

/-- What follows the closing bracket, from the byte `start` on: a level, or
nothing. -/
def behindBracket (text : List Char) (start : Nat) : List Char → Except Trouble Verbosity
  | [] => .ok .trace
  | '=' :: _ => levelFrom text (start + 1)
  | _ => .error .unreadable

/-- Whether a field may be asked for this value. -/
def isValue (s : List Char) : Bool := (Text.Numeral.double? s).isSome || Pattern.isValid s

/-- A field and the value that may follow it. What follows a second equals
sign is passed over. -/
def readField (s : List Char) : Except Trouble FieldFilter :=
  let name := s.takeWhile (· != '=')
  match s, s.drop name.length with
  | [], _ => .error .unreadable
  | _, [] => .ok ⟨String.ofList name, false⟩
  | _, _ :: rest =>
    if isValue (rest.takeWhile (· != '=')) then .ok ⟨String.ofList name, true⟩
    else .error .unreadable

/-- The part of a directive behind its opening bracket, which is the byte
before `start`. -/
def inBracket (text : List Char) (target : Option String) (start : Nat) (s : List Char) :
    Except Trouble Directive :=
  let name := s.takeWhile fun c => c != ']' && c != '\x7b'
  let nameEnd := start + Text.Utf8.size name
  match s.drop name.length with
  | [] => .error .unreadable
  | ']' :: rest => do
    let span ← part text start nameEnd
    let level ← behindBracket text (nameEnd + 1) rest
    return ⟨level, target, some (String.ofList span), none⟩
  | _ :: s => do
    let span ← part text start nameEnd
    let span := if span.isEmpty then none else some (String.ofList span)
    let inside := s.takeWhile (· != '\x7d')
    let fieldEnd := nameEnd + 1 + Text.Utf8.size inside
    match s.drop inside.length with
    | [] => .error .unreadable
    | _ :: s =>
      let field ← readField (← part text (nameEnd + 1) fieldEnd)
      match s with
      | ']' :: rest =>
        let level ← behindBracket text (fieldEnd + 2) rest
        return ⟨level, target, span, some field⟩
      | _ => .error .unreadable

/-- A character with which a target or a level may begin. -/
def beginsWord (c : Char) : Bool :=
  c == '-' || c == ':' || c == '_' || Text.isAlphanumeric c

/-- **The directive that a text is.** -/
def ofText (text : List Char) : Except Trouble Directive :=
  match Text.trim text with
  | [] => .error .unreadable
  | '[' :: s => inBracket text none 1 s
  | c :: s =>
    if !beginsWord c then .error .unreadable
    else
      let word := (c :: s).takeWhile fun c => c != '=' && c != '['
      let wordEnd := Text.Utf8.size word
      match (c :: s).drop word.length with
      | [] =>
        match Verbosity.ofText? text with
        | some level => .ok ⟨level, none, none, none⟩
        | none => .ok ⟨.trace, some (String.ofList text), none, none⟩
      | '=' :: _ => do
        let target ← part text 0 wordEnd
        let level ← levelFrom text (wordEnd + 1)
        return ⟨level, some (String.ofList target), none, none⟩
      | _ :: s => do
        let target ← part text 0 wordEnd
        inBracket text (some (String.ofList target)) (wordEnd + 1) s

/-! ## Matching -/

/-- Whether a directive depends on the span it is asked about. -/
def isDynamic (d : Directive) : Bool := d.span.isSome || d.field.isSome

/-- Whether a directive takes part in the decision by the most specific
one. -/
def isStatic (d : Directive) : Bool := d.span.isNone && !(d.field.any (·.hasValue))

/-- Whether the target of trace spans is one that the directive means. -/
def meansTarget (d : Directive) : Bool :=
  d.target.all fun target => target.toList.isPrefixOf Tracer.target.toList

/-- **Whether a directive matches** trace spans. -/
def meansSpan (d : Directive) : Bool :=
  d.meansTarget && d.span.all (· == Tracer.spanName)
    && d.field.all fun field => Tracer.declares field.name

/-- The length of the target, none being less than any. -/
def targetSize (d : Directive) : Nat :=
  (d.target.map fun target => target.utf8ByteSize + 1).getD 0

/-- The name of the field, if there is one. -/
def fieldName (d : Directive) : Option String := d.field.map (·.name)

/-- Whether one name comes after another, none coming first. -/
def comesAfter : Option String → Option String → Bool
  | some a, some b => b ≤ a
  | some _, none => true
  | none, none => true
  | none, some _ => false

/-- **Whether a directive is at least as specific as another** that matches
too. -/
def covers (d other : Directive) : Bool :=
  other.targetSize < d.targetSize
    || (other.targetSize == d.targetSize && comesAfter d.fieldName other.fieldName)

end Directive
end CallScope
