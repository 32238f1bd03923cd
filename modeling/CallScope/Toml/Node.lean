import CallScope.Json.Draft

/-!
# Configuration documents

A TOML document is a tree of tables. Its text names a table in three ways –
by a header, in passing on the way to another one, or by a dotted key – and
what may still be added to a table depends on which it was (`Origin`).

* A table with a header of its own is complete with the lines below it.
  Only further headers lead through it.
* A table that was only passed on the way to another may still be given its
  header, once.
* A table that dotted keys made may be added to by dotted keys of the same
  lines, and never be given a header.

An array of tables has one header an element, and whatever leads through it
leads through its last element. No key is ever given twice.

`Node.draft` hands a document to the decoders that read JSON: a table is an
object, and a date is an object of one member, which no field here takes.
-/

namespace CallScope.Toml

/-- **How a table came about.** -/
inductive Origin where
  | header
  | passed
  | dotted
deriving DecidableEq

/-- **A node of a document.** -/
inductive Node where
  | string (s : String)
  | integer (n : Int64)
  | float (x : Double)
  | boolean (b : Bool)
  /-- A date, a time, or both. -/
  | date (text : String)
  | array (items : List Node)
  /-- A table written as a value. -/
  | inline (members : List (String × Node))
  | table (origin : Origin) (members : List (String × Node))
  /-- An array of tables, last one first. -/
  | tables (elements : List (List (String × Node)))
deriving Inhabited

/-- The members of a table in their order. -/
abbrev Members : Type := List (String × Node)

namespace Members

/-- The members with another node under a key that is there already. -/
def replace (key : String) (node : Node) (members : Members) : Members :=
  members.map fun member => if member.1 = key then (key, node) else member

/-- **Act on the table at the end of a path**, making the tables on the way
that are not there. `made` is the origin of tables that are made; dotted
keys do not lead through a table with a header. The action learns how the
table came about. -/
def within (made : Origin) : List String → (Origin → Members → Option Members) →
    Origin → Members → Option Members
  | [], act, origin, members => act origin members
  | key :: path, act, _, members =>
    match members.lookup key with
    | none => do
      let inner ← within made path act made []
      some (members ++ [(key, .table made inner)])
    | some (.table origin inner) =>
      if made = .dotted ∧ origin = .header then none
      else do
        let inner ← within made path act origin inner
        some (replace key (.table origin inner) members)
    | some (.tables (last :: others)) => do
      let last ← within made path act .header last
      some (replace key (.tables (last :: others)) members)
    | some _ => none

/-- A new member, unless its key is there already. -/
def insertNew (key : String) (node : Node) (members : Members) : Option Members :=
  match members.lookup key with
  | some _ => none
  | none => some (members ++ [(key, node)])

end Members

/-- **One line of a table**: a key, the keys that lead to it, and the
value. -/
structure Entry where
  path : List String
  key : String
  node : Node

namespace Members

/-- **Add a line** to a table. A dotted key ends in a table that dotted keys
made. -/
def addEntry (members : Members) (entry : Entry) : Option Members :=
  within .dotted entry.path (fun origin inner =>
    if (origin == .dotted) == entry.path.isEmpty then none
    else insertNew entry.key entry.node inner) .header members

/-- Add lines one after another. -/
def addEntries (members : Members) (entries : List Entry) : Option Members :=
  entries.foldlM addEntry members

end Members

/-! ## Sections -/

/-- **The header of a section**: the last key of its path, the keys before
it, and whether it begins an element of an array of tables. -/
structure Header where
  path : List String
  key : String
  element : Bool

/-- A header with the lines below it. -/
structure Block where
  header : Header
  entries : List Entry

namespace Members

/-- The table of a header, put under its key in the table that holds it. -/
def placeTable (key : String) (entries : List Entry) (parent : Members) : Option Members :=
  match parent.lookup key with
  | none => do
    let members ← addEntries [] entries
    some (parent ++ [(key, .table .header members)])
  | some (.table .passed members) => do
    let members ← addEntries members entries
    some (replace key (.table .header members) parent)
  | some _ => none

/-- One more element of the array of tables under a key. -/
def placeElement (key : String) (entries : List Entry) (parent : Members) : Option Members :=
  match parent.lookup key with
  | none => do
    let members ← addEntries [] entries
    some (parent ++ [(key, .tables [members])])
  | some (.tables elements) => do
    let members ← addEntries [] entries
    some (replace key (.tables (members :: elements)) parent)
  | some _ => none

/-- **Add a section** to a document. -/
def addBlock (root : Members) (block : Block) : Option Members :=
  within .passed block.header.path (fun _ parent =>
    if block.header.element then placeElement block.header.key block.entries parent
    else placeTable block.header.key block.entries parent) .header root

/-- **The document of its lines**: those before the first header, and the
sections. -/
def ofBlocks (entries : List Entry) (blocks : List Block) : Option Members := do
  blocks.foldlM addBlock (← addEntries [] entries)

end Members

/-! ## As a draft -/

open Json

mutual
/-- **A node as a draft** that decoders read. -/
def Node.draft : Node → Draft
  | .string s => .string (some s)
  | .integer n => .number (some (.integer (.ofInt64 n)))
  | .float x => .number (if h : x.isFinite = true then some (.double x h) else none)
  | .boolean b => .bool b
  | .date text => .object [(some "date", .string (some text))] .closed
  | .array items => .array (drafts items) .closed
  | .inline members => .object (memberDrafts members) .closed
  | .table _ members => .object (memberDrafts members) .closed
  | .tables elements => .array (elementDrafts elements).reverse .closed

/-- The items of an array as drafts. -/
def drafts : List Node → List Draft
  | [] => []
  | item :: rest => item.draft :: drafts rest

/-- The members of a table as drafts. -/
def memberDrafts : List (String × Node) → List (Option String × Draft)
  | [] => []
  | (key, node) :: rest => (some key, node.draft) :: memberDrafts rest

/-- The elements of an array of tables as drafts. -/
def elementDrafts : List (List (String × Node)) → List Draft
  | [] => []
  | members :: rest => .object (memberDrafts members) .closed :: elementDrafts rest
end

/-- A document as a draft. -/
def Members.draft (members : Members) : Draft := .object (memberDrafts members) .closed

end CallScope.Toml
