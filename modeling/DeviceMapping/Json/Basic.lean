/-
**JSON values.**

Whole numbers and doubles are different numbers: `1` is not `1.0`. An object lists its members; in
canonical form by strictly increasing name, as those of a table are (`ofTable`). `sameAs` compares
values by kind, doubles as numbers, so `0.0` is the same as `-0.0`.
-/

import DeviceMapping.Table

namespace DeviceMapping

/-- A JSON value. -/
inductive Json where
  | null
  | bool (value : Bool)
  | integer (value : Int)
  | double (value : Float)
  | string (value : String)
  | array (items : List Json)
  | object (members : List (String × Json))
  deriving Inhabited

namespace Json

/-- The value is `null`. -/
def isNull : Json → Bool
  | null => true
  | _ => false

/-- The text of a string value. -/
def text? : Json → Option String
  | string value => some value
  | _ => none

/-- The number of a whole number value. -/
def integer? : Json → Option Int
  | integer value => some value
  | _ => none

/-- The items of an array value. -/
def items? : Json → Option (List Json)
  | array items => some items
  | _ => none

/-- The members of an object value. -/
def members? : Json → Option (List (String × Json))
  | object members => some members
  | _ => none

/-- The member of an object with a given name. -/
def member? (value : Json) (name : String) : Option Json :=
  value.members?.bind fun members => members.lookup name

/-- The object with the given members, without those that have no value. -/
def record (fields : List (String × Option Json)) : Json :=
  object (fields.filterMap fun field => field.2.map (field.1, ·))

/-- An object value with the entries of a table. -/
def ofTable (table : Table Json) : Json :=
  object table.entries

/-! ### Equality by kind -/

mutual

/-- Equality of values by kind, doubles compared as numbers. -/
def sameAs : Json → Json → Bool
  | null, null => true
  | bool first, bool second => first == second
  | integer first, integer second => first == second
  | double first, double second => first == second
  | string first, string second => first == second
  | array first, array second => sameItems first second
  | object first, object second => sameMembers first second
  | _, _ => false

/-- Equality of arrays item by item. -/
def sameItems : List Json → List Json → Bool
  | [], [] => true
  | first :: firsts, second :: seconds => sameAs first second && sameItems firsts seconds
  | _, _ => false

/-- Equality of objects in canonical form member by member. -/
def sameMembers : List (String × Json) → List (String × Json) → Bool
  | [], [] => true
  | (firstName, first) :: firsts, (secondName, second) :: seconds =>
    firstName == secondName && sameAs first second && sameMembers firsts seconds
  | _, _ => false

end

end Json

end DeviceMapping
