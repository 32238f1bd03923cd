import CallScope.Decode.Record

/-!
# Chat messages

A message has a role and may have content. Content is a text, or a list of
parts of which some carry text: of a multimodal message, the text view
(`Content.text`) is what its text-bearing parts say, joined by one space.

A part is text-bearing if it is an object with a string `text` whose `type`
is absent, `null` or a string. Everything else is kept as it was, so that
reading a message never fails on account of a part.
-/

namespace CallScope

open Json Decode

/-- **Who speaks.** Roles that are not known are all one. -/
inductive Role where
  | system
  | developer
  | user
  | assistant
  | tool
  | other
deriving DecidableEq

namespace Role

/-- The name of a role in JSON. -/
def name : Role → String
  | .system => "system"
  | .developer => "developer"
  | .user => "user"
  | .assistant => "assistant"
  | .tool => "tool"
  | .other => "other"

/-- The name of a role in diagnostics. -/
def label : Role → String
  | .system => "System"
  | .developer => "Developer"
  | .user => "User"
  | .assistant => "Assistant"
  | .tool => "Tool"
  | .other => "Other"

/-- The role with a name, names that are not known being `other`. -/
def ofName (name : String) : Role :=
  ([Role.system, .developer, .user, .assistant, .tool].find? fun r => r.name == name).getD .other

@[simp] theorem ofName_name (r : Role) : ofName r.name = r := by
  cases r <;> decide

/-- A role as JSON. -/
def toValue (r : Role) : Value := .string r.name

/-- Reads the name of a role. -/
def decode : Decoder Role :=
  enumeration ["system", "developer", "user", "assistant", "tool", "other"] (some ∘ ofName)

end Role

/-- **One part** of structured content. -/
inductive ContentPart where
  /-- A part with text, and its type if it names one. -/
  | text (kind : Option String) (text : String)
  /-- Anything else. -/
  | other (value : Value)

namespace ContentPart

/-- A part of type `text`. -/
def ofText (s : String) : ContentPart := .text (some "text") s

/-- The text of a part that has one. -/
def text? : ContentPart → Option String
  | .text _ s => some s
  | .other _ => none

/-- A part as JSON. -/
def toValue : ContentPart → Value
  | .text kind s =>
    .object ((kind.map fun k => ("type", Value.string k)).toList ++ [("text", .string s)])
  | .other v => v

/-- What is kept of a part with text while it is read. -/
structure Partial where
  kind : Option (Option String) := none
  text : Option String := none

/-- The record of a part with text. -/
def record : Record Partial ContentPart where
  name := "ContentPart"
  slots := [
    slot "type" true (option string) (·.kind) fun k p => { p with kind := some k },
    slot "text" false string (·.text) fun s p => { p with text := some s }]
  blank := {}
  build := fun p => (required "text" p.text).map fun s => .text (p.kind.getD none) s

/-- Reads a part: a record with text, or anything. -/
def decode : Decoder ContentPart :=
  untagged "ContentPart" [record.decodeObject "a part with text", any.map .other]

end ContentPart

/-- **The content** of a message. -/
inductive Content where
  | text (s : String)
  | parts (items : List ContentPart)

namespace Content

/-- **The text view** of content. -/
def toText : Content → String
  | .text s => s
  | .parts items => String.intercalate " " (items.filterMap ContentPart.text?)

/-- Content as JSON. -/
def toValue : Content → Value
  | .text s => .string s
  | .parts items => .array (items.map ContentPart.toValue)

/-- Reads content: a text or a list of parts. -/
def decode : Decoder Content :=
  untagged "MessageContent" [string.map .text, (list ContentPart.decode).map .parts]

end Content

/-- **A chat message.** -/
structure Message where
  role : Role
  content : Option Content

namespace Message

/-- A message of a text. -/
def ofText (role : Role) (s : String) : Message := ⟨role, some (.text s)⟩

/-- The text view of a message, empty if it has no content. -/
def toText (m : Message) : String := (m.content.map Content.toText).getD ""

/-- A message as JSON. -/
def toValue (m : Message) : Value := .object [
  ("role", m.role.toValue),
  ("content", .ofOption Content.toValue m.content)]

/-- What is kept of a message while it is read. -/
structure Partial where
  role : Option Role := none
  content : Option (Option Content) := none

/-- The record of a message. -/
def record : Record Partial Message where
  name := "ChatMessage"
  slots := [
    slot "role" false Role.decode (·.role) fun r p => { p with role := some r },
    slot "content" true (option Content.decode) (·.content)
      fun c p => { p with content := some c }]
  blank := {}
  build := fun p => (required "role" p.role).map fun r => ⟨r, p.content.getD none⟩

/-- Reads a message. -/
def decode : Decoder Message := record.decode

end Message
end CallScope
