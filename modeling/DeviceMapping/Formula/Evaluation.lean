/-
**Evaluation of expressions.**

`Tree.value?` computes the children of a node in order, all of them, and then the node itself; any
fault in a part is a fault of the whole. An expression sees the variable `x` and the constants `pi`
and `e`, and it cannot assign.
-/

import DeviceMapping.Formula.Tree
import DeviceMapping.Formula.Function

namespace DeviceMapping.Formula

/-- The names an expression can read. -/
def knownName? (x : Float) (name : String) : Option Float :=
  match name with
  | "x" => some x
  | "pi" => some 3.141592653589793
  | "e" => some 2.718281828459045
  | _ => none

namespace BinaryOperator

/-- Whole number arithmetic; a result beyond 64 bits and a division by zero are faults. -/
def onWhole? (operator : BinaryOperator) (first second : Int) : Option Value :=
  match operator with
  | add => Value.whole? (first + second)
  | subtract => Value.whole? (first - second)
  | multiply => Value.whole? (first * second)
  | divide => if second = 0 then none else Value.whole? (first.tdiv second)
  | remainder =>
    if second = 0 ∨ (first.tdiv second) = 0x8000000000000000 then none
    else Value.whole? (first.tmod second)
  | _ => none

/-- Arithmetic of doubles. -/
def onFloats? (operator : BinaryOperator) (first second : Float) : Option Value :=
  match operator with
  | add => some (.float (first + second))
  | subtract => some (.float (first - second))
  | multiply => some (.float (first * second))
  | divide => some (.float (first / second))
  | remainder => some (.float (Function.remainder first second))
  | power => some (.float (first.pow second))
  | _ => none

/-- Arithmetic of numbers: whole numbers stay whole, except in powers. -/
def onNumbers? (operator : BinaryOperator) (first second : Value) : Option Value :=
  match operator, first, second with
  | power, _, _ => do onFloats? power (← first.number?) (← second.number?)
  | _, .whole first, .whole second => operator.onWhole? first second
  | _, _, _ => do operator.onFloats? (← first.number?) (← second.number?)

/-- The outcome of an order comparison, given how the operands compare. -/
def holds (operator : BinaryOperator) (less equal greater : Bool) : Option Value :=
  match operator with
  | BinaryOperator.less => some (.boolean less)
  | BinaryOperator.greater => some (.boolean greater)
  | atMost => some (.boolean (less || equal))
  | atLeast => some (.boolean (greater || equal))
  | _ => none

/-- Order comparison of two texts by bytes, of whole numbers, or of numbers as doubles. -/
def compare? (operator : BinaryOperator) (first second : Value) : Option Value :=
  match first, second with
  | .text first, .text second => operator.holds (first < second) (first == second) (second < first)
  | .whole first, .whole second =>
    operator.holds (first < second) (first == second) (second < first)
  | _, _ => do
    let first ← first.number?
    let second ← second.number?
    operator.holds (first < second) (first == second) (second < first)

/-- The value of two operands. -/
def value? (operator : BinaryOperator) (first second : Value) : Option Value :=
  match operator with
  | add =>
    match first, second with
    | .text first, .text second => some (.text (first ++ second))
    | _, _ => onNumbers? add first second
  | equal => some (.boolean (first.same second))
  | unequal => some (.boolean (!first.same second))
  | both => do some (.boolean ((← first.boolean?) && (← second.boolean?)))
  | either => do some (.boolean ((← first.boolean?) || (← second.boolean?)))
  | BinaryOperator.greater | BinaryOperator.less | atLeast | atMost =>
    operator.compare? first second
  | _ => operator.onNumbers? first second

end BinaryOperator

/-- The value of a node, given those of its children; the wrong number of them is a fault. -/
def Operator.value? (x : Float) (operator : Operator) (arguments : List Value) : Option Value :=
  match operator, arguments with
  | .group, [] => some .empty
  | .group, value :: _ => some value
  | .constant value, [] => some value
  | .read name, [] => (knownName? x name).map .float
  | .write name, [] => some (.text name)
  | .call name, [argument] => Function.call? name argument
  | .minus, [.whole value] => Value.whole? (-value)
  | .minus, [value] => value.number?.map fun number => .float (-number)
  | .negation, [.boolean value] => some (.boolean (!value))
  | .binary operator, [first, second] => operator.value? first second
  | .tuple, items => some (.tuple items)
  | .chain, items => items.getLast?
  | _, _ => none

namespace Tree

mutual

/-- The value of a tree for a given `x`. -/
def value? (x : Float) : Tree → Option Value
  | node operator children => (values? x children).bind (operator.value? x)

/-- The values of trees, in order. -/
def values? (x : Float) : List Tree → Option (List Value)
  | [] => some []
  | tree :: rest => (value? x tree).bind fun value => (values? x rest).map (value :: ·)

end

end Tree

end DeviceMapping.Formula
