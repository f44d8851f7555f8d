/-
**JSON as it is written.**

What a JSON text says before anyone asks for its values: names of an object may repeat, nesting has
no limit, and a part that is well formed but has no value, such as a number out of range or half of
a pair of units in a string, is kept as `unreadable`. A reader that passes such a part by does not
notice it; `value?` refuses it, and more levels of nesting than it is allowed.
-/

import DeviceMapping.Json.Basic

namespace DeviceMapping

/-- A JSON value as it is written. -/
inductive WrittenJson where
  | null
  | bool (value : Bool)
  | integer (value : Int)
  | double (value : Float)
  | string (value : String)
  | array (items : List WrittenJson)
  | object (members : List (String × WrittenJson))
  | unreadable
  deriving Inhabited

namespace WrittenJson

mutual

/-- The value in canonical form, with at most `levels` arrays and objects inside each other. -/
def value? (levels : Nat) : WrittenJson → Option Json
  | null => some .null
  | bool value => some (.bool value)
  | integer value => some (.integer value)
  | double value => some (.double value)
  | string value => some (.string value)
  | array items => if levels = 0 then none else (itemValues? (levels - 1) items).map .array
  | object members =>
    if levels = 0 then none
    else (memberValues? (levels - 1) members).map fun members => .ofTable (.ofList members)
  | unreadable => none

/-- The values of the items of an array. -/
def itemValues? (levels : Nat) : List WrittenJson → Option (List Json)
  | [] => some []
  | item :: rest =>
    match value? levels item, itemValues? levels rest with
    | some value, some values => some (value :: values)
    | _, _ => none

/-- The values of the members of an object. -/
def memberValues? (levels : Nat) : List (String × WrittenJson) → Option (List (String × Json))
  | [] => some []
  | (name, written) :: rest =>
    match value? levels written, memberValues? levels rest with
    | some value, some values => some ((name, value) :: values)
    | _, _ => none

end

end WrittenJson

end DeviceMapping
