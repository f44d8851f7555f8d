/-
**Formulas over one variable.**

A formula is its source text together with the tree of its normal form, or no tree when that is no
expression; such a formula is kept, and every evaluation of it fails. `evaluate` gives a
finite double or the reason why there is none.
-/

import DeviceMapping.Formula.Literal
import DeviceMapping.Formula.Evaluation

namespace DeviceMapping

/-- Why a raw value has no transformed value. -/
inductive CalculationError where
  | notAnExpression (source : String)
  | evaluationFailed (source : String)
  | notANumber (source : String)
  | notFinite (source : String) (result : Float)
  | notNumeric (raw : String)

namespace CalculationError

def message : CalculationError → String
  | notAnExpression source => "Expression error: Failed to compile '" ++ source ++ "'"
  | evaluationFailed source => "Expression error: Failed to evaluate '" ++ source ++ "'"
  | notANumber source => "Expression error: Expression did not evaluate to a number: " ++ source
  | notFinite source result =>
    "Result is not a finite number: " ++ source ++ " = " ++ plainFloatText result
  | notNumeric raw => "Value is not numeric: " ++ raw

end CalculationError

/-- A formula over `x`, compiled from its source. -/
structure Formula where
  source : String
  tree : Option Formula.Tree
  compiled : tree = Formula.Tree.ofText? (Literal.normalizeFrom false source.toList)

namespace Formula

/-- The formula of a source text. -/
def compile (source : String) : Formula :=
  ⟨source, Tree.ofText? (Literal.normalizeFrom false source.toList), rfl⟩

/-- Formulas with one source are one formula. -/
theorem ext_source {first second : Formula} (same : first.source = second.source) :
    first = second := by
  cases first; cases second; subst_vars; rfl

/-- The source text is an expression. -/
def isValid (formula : Formula) : Bool :=
  formula.tree.isSome

/-- The number that a value of an expression stands for: a finite double, or a whole number as the
nearest double. -/
def finiteResult (source : String) : Value → Except CalculationError Float
  | .float value => if value.isFinite then .ok value else .error (.notFinite source value)
  | .whole value => .ok (Float.ofInt value)
  | _ => .error (.notANumber source)

/-- The value of a formula for a given `x`. -/
def evaluate (formula : Formula) (x : Float) : Except CalculationError Float :=
  match formula.tree with
  | none => .error (.notAnExpression formula.source)
  | some tree =>
    match tree.value? x with
    | none => .error (.evaluationFailed formula.source)
    | some value => finiteResult formula.source value

end Formula

end DeviceMapping
