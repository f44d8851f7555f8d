/-
**Tables of a TOML text.**

A document is a table of items: values, tables, and lists of tables. How a table came to be decides
what may still be said about it. One that a header names is complete; one that stands on the way to
a header or a dotted key is not, and a dotted key may only add to those that dotted keys made.
-/

import DeviceMapping.Json.Basic

namespace DeviceMapping.Toml

/-- What a table was made by: a header of its own, the header of a table inside it, or a dotted
key. -/
inductive Origin where
  | header
  | implied
  | dotted
  deriving DecidableEq

/-- An item of a table; of a list of tables the last one is open. -/
inductive Item where
  | value (value : Json)
  | table (origin : Origin) (members : List (String × Item))
  | tables (earlier : List (List (String × Item))) (last : List (String × Item))
  deriving Inhabited

/-- The members of a table. -/
abbrev Members := List (String × Item)

/-- The members with another item under a name. -/
def Members.replace (members : Members) (name : String) (item : Item) : Members :=
  members.map fun member => if member.1 = name then (name, item) else member

/-- The members with a new item under a name that none has. -/
def Members.add? (members : Members) (name : String) (item : Item) : Option Members :=
  if (members.lookup name).isSome then none else some (members ++ [(name, item)])

/-- The members with the table at the end of a way changed; tables on the way that are missing are
made, and of a list of tables the last one is meant. -/
def changeAt? (change : Members → Option Members) : List String → Members → Option Members
  | [], members => change members
  | name :: path, members =>
    match members.lookup name with
    | none => (changeAt? change path []).map fun inner => members ++ [(name, .table .implied inner)]
    | some (.table origin inner) =>
      (changeAt? change path inner).map fun inner => members.replace name (.table origin inner)
    | some (.tables earlier last) =>
      (changeAt? change path last).map fun last => members.replace name (.tables earlier last)
    | some (.value _) => none

/-- The members with a table opened under a name by its header. -/
def openTable? (name : String) (members : Members) : Option Members :=
  match members.lookup name with
  | none => some (members ++ [(name, .table .header [])])
  | some (.table .implied inner) => some (members.replace name (.table .header inner))
  | some _ => none

/-- The members with one more table opened in the list under a name. -/
def openNext? (name : String) (members : Members) : Option Members :=
  match members.lookup name with
  | none => some (members ++ [(name, .tables [] [])])
  | some (.tables earlier last) => some (members.replace name (.tables (earlier ++ [last]) []))
  | some _ => none

/-- The members with a value under a dotted key, which is given as its parts before the last, and
the last. -/
def insert? (name : String) (value : Json) : List String → Members → Option Members
  | [], members => members.add? name (.value value)
  | first :: path, members =>
    match members.lookup first with
    | none =>
      (insert? name value path []).map fun inner => members ++ [(first, .table .dotted inner)]
    | some (.table origin inner) =>
      if origin = .header || (path.isEmpty && origin ≠ .dotted) then none
      else (insert? name value path inner).map fun inner =>
        members.replace first (.table origin inner)
    | some (.tables earlier last) =>
      if path.isEmpty then none
      else (insert? name value path last).map fun last =>
        members.replace first (.tables earlier last)
    | some (.value _) => none

mutual

/-- The value that an item stands for. -/
def Item.toJson : Item → Json
  | .value value => value
  | .table _ members => .object (membersJson members)
  | .tables earlier last => .array (tablesJson earlier ++ [.object (membersJson last)])

/-- The members of the object that a table stands for. -/
def membersJson : List (String × Item) → List (String × Json)
  | [] => []
  | (name, item) :: rest => (name, item.toJson) :: membersJson rest

/-- The objects that tables stand for. -/
def tablesJson : List (List (String × Item)) → List Json
  | [] => []
  | members :: rest => .object (membersJson members) :: tablesJson rest

end

end DeviceMapping.Toml
