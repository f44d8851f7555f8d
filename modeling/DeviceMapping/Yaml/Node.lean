/-
**YAML nodes and what their scalars mean.**

A node is a scalar, a sequence or a mapping, perhaps with a tag. Where a text is wanted every scalar
is its own text; where any value will do, a plain scalar stands for nothing, a truth value, a number
or its text, and a quoted one for its text, unless a tag says what it is. An empty plain scalar is
also the empty sequence and the empty mapping.
-/

import DeviceMapping.Decimal.Text
import DeviceMapping.Document
import DeviceMapping.Text.Digit

namespace DeviceMapping

/-- A node of a YAML document; `endless` stands for a node inside itself. -/
inductive Yaml where
  | scalar (text : String) (plain : Bool) (tag : Option String)
  | sequence (items : List Yaml) (tag : Option String)
  | mapping (members : List (Yaml × Yaml)) (tag : Option String)
  | endless
  deriving Inhabited

namespace Yaml

/-- The node of which nothing is written. -/
def empty : Yaml := scalar "" true none

/-! ### Plain scalars -/

/-- The spellings of nothing. -/
def isNullWord (text : String) : Bool :=
  ["null", "Null", "NULL", "~"].contains text

/-- The truth value of a word. -/
def truth? (text : String) : Option Bool :=
  if ["true", "True", "TRUE"].contains text then some true
  else if ["false", "False", "FALSE"].contains text then some false
  else none

/-- More than one digit and a leading zero, after a sign if there is one: text, not a number. -/
def isZeroPadded (text : List Char) : Bool :=
  let digits := match text with
    | '-' :: rest | '+' :: rest => rest
    | _ => text
  digits.length > 1 && digits.head? == some '0' && digits.all Char.isDigit

/-- The magnitude of a whole number after its sign: with a base before it, or decimal. -/
def magnitude? (unsigned : List Char) : Option Nat :=
  match unsigned with
  | '0' :: 'x' :: digits => readBase? 16 digits
  | '0' :: 'o' :: digits => readBase? 8 digits
  | '0' :: 'b' :: digits => readBase? 2 digits
  | digits => if isZeroPadded digits then none else readBase? 10 digits

/-- The whole number of a plain scalar, if it fits 128 bits. -/
def integer? (text : List Char) : Option Int :=
  let value := match text with
    | '-' :: rest => (magnitude? rest).map fun magnitude => -(magnitude : Int)
    | '+' :: rest => (magnitude? rest).map Int.ofNat
    | _ => (magnitude? text).map Int.ofNat
  value.filter fun value =>
    decide (-0x80000000000000000000000000000000 ≤ value ∧
      value < 0x100000000000000000000000000000000)

/-- The number that is not finite behind its word. -/
def unbounded? (text : String) : Option Float :=
  if [".inf", ".Inf", ".INF", "+.inf", "+.Inf", "+.INF"].contains text then some (1.0 / 0.0)
  else if ["-.inf", "-.Inf", "-.INF"].contains text then some (-1.0 / 0.0)
  else if [".nan", ".NaN", ".NAN"].contains text then some (0.0 / 0.0)
  else none

/-- The double of a plain scalar. -/
def double? (text : String) : Option Float :=
  match unbounded? text with
  | some value => some value
  | none =>
    let unsigned := match text.toList with
      | '+' :: rest => if rest.head? == some '+' || rest.head? == some '-' then [] else rest
      | characters => characters
    (readFloat? unsigned).filter Float.isFinite

/-- What a reader makes of numbers: of whole ones that may not fit 64 bits, and of doubles that may
not be finite. -/
structure NumberReading where
  integer? : Int → Option Json
  double : Float → Json

/-- JSON knows whole numbers of 64 bits, and nothing in place of a double that is not finite. -/
def NumberReading.json : NumberReading where
  integer? value :=
    if -0x8000000000000000 ≤ value ∧ value < 0x10000000000000000 then some (.integer value)
    else none
  double value := if value.isFinite then .double value else .null

/-- Settings take every number as it is. -/
def NumberReading.settings : NumberReading := ⟨some ∘ .integer, .double⟩

/-- The value of a plain scalar. -/
def plainValue? (reading : NumberReading) (text : String) : Option Json :=
  if text.isEmpty || isNullWord text then some .null
  else match truth? text with
    | some value => some (.bool value)
    | none =>
      match integer? text.toList with
      | some value => reading.integer? value
      | none =>
        match if isZeroPadded text.toList then none else double? text with
        | some value => some (reading.double value)
        | none => some (.string text)

/-! ### Tags -/

/-- A tag of the language itself. -/
def coreTag (name : String) : String := "tag:yaml.org,2002:" ++ name

/-- The name in a tag of the document's own. -/
def ownTag? (tag : Option String) : Option String :=
  match tag.map String.toList with
  | some ['!'] => some "!"
  | some ('!' :: name) => some (String.ofList name)
  | _ => none

/-- The value of a scalar. -/
def scalarValue? (reading : NumberReading) (text : String) (plain : Bool) (tag : Option String) :
    Option Json :=
  match tag with
  | none => if plain then plainValue? reading text else some (.string text)
  | some name =>
    if (ownTag? tag).isSome then none
    else if name = coreTag "bool" then (truth? text).map .bool
    else if name = coreTag "int" then (integer? text.toList).bind reading.integer?
    else if name = coreTag "float" then (double? text).map reading.double
    else if name = coreTag "null" then if isNullWord text then some .null else none
    else some (.string text)

/-! ### Values -/

mutual

/-- The value of a node, with at most `levels` sequences and mappings inside each other. -/
def value? (reading : NumberReading) (levels : Nat) : Yaml → Option Json
  | scalar text plain tag => scalarValue? reading text plain tag
  | sequence items tag =>
    if levels = 0 || (ownTag? tag).isSome then none
    else (itemValues? reading (levels - 1) items).map Json.array
  | mapping members tag =>
    if levels = 0 || (ownTag? tag).isSome then none
    else (memberValues? reading (levels - 1) members).map fun members => .ofTable (.ofList members)
  | endless => none

/-- The values of the items of a sequence. -/
def itemValues? (reading : NumberReading) (levels : Nat) : List Yaml → Option (List Json)
  | [] => some []
  | item :: rest =>
    match value? reading levels item, itemValues? reading levels rest with
    | some value, some values => some (value :: values)
    | _, _ => none

/-- The values of the members of a mapping, whose names are scalars. -/
def memberValues? (reading : NumberReading) (levels : Nat) :
    List (Yaml × Yaml) → Option (List (String × Json))
  | [] => some []
  | (scalar name _ _, node) :: rest =>
    match value? reading levels node, memberValues? reading levels rest with
    | some value, some values => some ((name, value) :: values)
    | _, _ => none
  | _ :: _ => none

end

/-! ### Nodes as documents -/

/-- The levels of sequences and mappings that a document may have. -/
def nestingLimit : Nat := 128

/-- A member of a mapping whose name is a scalar. -/
def namedMember? (member : Yaml × Yaml) : Option (String × Yaml) :=
  match member.1 with
  | scalar name _ _ => some (name, member.2)
  | _ => none

/-- The members of a mapping by name. -/
def members? (limited : Limited Yaml) : Option (List (String × Limited Yaml)) :=
  match limited.node with
  | mapping members _ => (members.mapM namedMember?).bind limited.namedInside?
  | scalar "" true _ => some []
  | _ => none

instance : Document (Limited Yaml) where
  isNothing limited := match limited.node with
    | scalar text true none => text.isEmpty || isNullWord text
    | scalar text true (some tag) => tag == coreTag "null" && isNullWord text
    | _ => false
  text? limited := match limited.node with
    | scalar text _ _ => some text
    | _ => none
  boolean? limited := match limited.node with
    | scalar text true none => truth? text
    | _ => none
  integer? limited := match limited.node with
    | scalar text true none => integer? text.toList
    | _ => none
  items? limited := match limited.node with
    | sequence items _ => limited.inside? items
    | scalar "" true _ => some []
    | _ => none
  members? := members?
  fields? _ := members?
  choice? limited := match limited.node with
    | scalar text plain tag =>
      match ownTag? tag with
      | some name => if plain && (text.isEmpty || isNullWord text) then some name else none
      | none => some text
    | _ => none
  value? limited := value? .json limited.levels limited.node

end Yaml

end DeviceMapping
