/-
**Documents and the records in them.**

A document is a tree read from a text in some notation. The class gives what a record needs of it:
which node is nothing, a text, a truth value, a whole number, a list, a record or one of several
choices. A record is read field by field: `required`, `defaulted` (absent takes the default) and
`optional` (absent and nothing mean no value); a field named twice makes the record unreadable, and
fields nobody asks for are ignored. In JSON a record may also be the list of its first fields in
order, and a choice an object with nothing under the name of the choice.
-/

import DeviceMapping.Json.Written

namespace DeviceMapping

/-- What records need to know of the nodes of a document. -/
class Document (δ : Type) where
  isNothing : δ → Bool
  text? : δ → Option String
  boolean? : δ → Option Bool
  integer? : δ → Option Int
  items? : δ → Option (List δ)
  members? : δ → Option (List (String × δ))
  fields? : List String → δ → Option (List (String × δ))
  choice? : δ → Option String
  value? : δ → Option Json

/-- A node of a document with the levels of lists and records it may still hold. -/
structure Limited (δ : Type) where
  node : δ
  levels : Nat

namespace Limited

/-- The nodes inside a node, one level down. -/
def inside? {δ : Type} (limited : Limited δ) (nodes : List δ) : Option (List (Limited δ)) :=
  if limited.levels = 0 then none else some (nodes.map (⟨·, limited.levels - 1⟩))

/-- The named nodes inside a node, one level down. -/
def namedInside? {δ : Type} (limited : Limited δ) (nodes : List (String × δ)) :
    Option (List (String × Limited δ)) :=
  if limited.levels = 0 then none
  else some (nodes.map fun member => (member.1, ⟨member.2, limited.levels - 1⟩))

end Limited

/-- The first fields of a record by name; more items than names make no record. -/
def nameFields? {δ : Type} (names : List String) (items : List δ) : Option (List (String × δ)) :=
  if items.length ≤ names.length then some (names.zip items) else none

/-- A JSON value is its own document: every kind of node reads as that kind only. -/
instance : Document Json where
  isNothing := Json.isNull
  text? := Json.text?
  boolean? value := match value with
    | .bool value => some value
    | _ => none
  integer? := Json.integer?
  items? := Json.items?
  members? := Json.members?
  fields? names value := match value with
    | .object members => some members
    | .array items => nameFields? names items
    | _ => none
  choice? value := match value with
    | .string name => some name
    | .object [(name, .null)] => some name
    | _ => none
  value? := some

/-- JSON as it is written: names may repeat, and count then only for records. -/
instance : Document (Limited WrittenJson) where
  isNothing limited := match limited.node with
    | .null => true
    | _ => false
  text? limited := match limited.node with
    | .string value => some value
    | _ => none
  boolean? limited := match limited.node with
    | .bool value => some value
    | _ => none
  integer? limited := match limited.node with
    | .integer value => some value
    | _ => none
  items? limited := match limited.node with
    | .array items => limited.inside? items
    | _ => none
  members? limited := match limited.node with
    | .object members => limited.namedInside? members
    | _ => none
  fields? names limited := match limited.node with
    | .object members => limited.namedInside? members
    | .array items => (nameFields? names items).bind limited.namedInside?
    | _ => none
  choice? limited := match limited.node with
    | .string name => some name
    | .object [(name, .null)] => if limited.levels = 0 then none else some name
    | _ => none
  value? limited := limited.node.value? limited.levels

namespace Document

variable {δ : Type} [Document δ] {α : Type}

/-- A whole number within bounds. -/
def bounded? (least greatest : Int) (node : δ) : Option Int :=
  (integer? node).bind fun value =>
    if least ≤ value ∧ value ≤ greatest then some value else none

/-- A natural number of 64 bits. -/
def word? (node : δ) : Option UInt64 :=
  (bounded? 0 0xFFFFFFFFFFFFFFFF node).map fun value => UInt64.ofNat value.toNat

/-- A list whose items can all be read. -/
def list? (read : δ → Option α) (node : δ) : Option (List α) :=
  (items? node).bind fun items => items.mapM read

/-- A free object of JSON values. -/
def object? (node : δ) : Option (Table Json) := do
  let members ← members? node
  let values ← members.mapM fun member => (value? member.2).map (member.1, ·)
  some (Table.ofList values)

/-- A value that may be nothing. -/
def orNothing? (read : δ → Option α) (node : δ) : Option (Option α) :=
  if isNothing node then some none else (read node).map some

/-- A field that must be there. -/
def required (members : List (String × δ)) (name : String) (read : δ → Option α) : Option α :=
  match members.filter fun member => member.1 == name with
  | [member] => read member.2
  | _ => none

/-- A field that takes a default when it is absent. -/
def defaulted (members : List (String × δ)) (name : String) (default : α)
    (read : δ → Option α) : Option α :=
  match members.filter fun member => member.1 == name with
  | [] => some default
  | [member] => read member.2
  | _ => none

/-- A field without a value when it is absent or nothing. -/
def optional (members : List (String × δ)) (name : String) (read : δ → Option α) :
    Option (Option α) :=
  defaulted members name none (orNothing? read)

end Document

end DeviceMapping
