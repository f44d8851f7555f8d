/-
**The values of expressions.**

An expression works on doubles, but its functions also see texts, whole numbers of 64 bits, truth
values, tuples and the empty value. Values of different kinds are never equal.
-/

import DeviceMapping.Decimal.Text

namespace DeviceMapping.Formula

/-- A value of an expression or of one of its parts. -/
inductive Value where
  | text (value : String)
  | float (value : Float)
  | whole (value : Int)
  | boolean (value : Bool)
  | tuple (items : List Value)
  | empty
  deriving Inhabited

namespace Value

/-- A whole number, if it fits 64 bits. -/
def whole? (value : Int) : Option Value :=
  if -0x8000000000000000 ≤ value ∧ value < 0x8000000000000000 then some (.whole value) else none

/-- The reading of a number as a double. -/
def number? : Value → Option Float
  | float value => some value
  | whole value => some (Float.ofInt value)
  | _ => none

def boolean? : Value → Option Bool
  | boolean value => some value
  | _ => none

def integer? : Value → Option Int
  | whole value => some value
  | _ => none

def text? : Value → Option String
  | text value => some value
  | _ => none

def items? : Value → Option (List Value)
  | tuple items => some items
  | _ => none

/-- The value is a text, a number or a truth value. -/
def isScalar : Value → Bool
  | tuple _ | empty => false
  | _ => true

/-- The name of the value's kind. -/
def kind : Value → String
  | text _ => "string"
  | float _ => "float"
  | whole _ => "int"
  | boolean _ => "boolean"
  | tuple _ => "tuple"
  | empty => "empty"

mutual

/-- Equality within a kind; a value that is no number differs from itself. -/
def same : Value → Value → Bool
  | text first, text second => first == second
  | float first, float second => first == second
  | whole first, whole second => first == second
  | boolean first, boolean second => first == second
  | tuple first, tuple second => sameItems first second
  | empty, empty => true
  | _, _ => false

/-- Equality of tuples item by item. -/
def sameItems : List Value → List Value → Bool
  | [], [] => true
  | first :: firsts, second :: seconds => same first second && sameItems firsts seconds
  | _, _ => false

end

mutual

/-- The text of a value inside a tuple. -/
def render : Value → String
  | text value => "\"" ++ value ++ "\""
  | float value => plainFloatText value
  | whole value => toString value
  | boolean value => if value then "true" else "false"
  | tuple items => "(" ++ ", ".intercalate (renderItems items) ++ ")"
  | empty => "()"

/-- The texts of the items of a tuple. -/
def renderItems : List Value → List String
  | [] => []
  | item :: rest => render item :: renderItems rest

end

end Value

end DeviceMapping.Formula
