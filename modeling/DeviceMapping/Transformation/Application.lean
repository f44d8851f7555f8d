/-
**Applying transformations.**

`tryApply` gives the transformed value or the reason why there is none. `apply` never fails: it
keeps the raw value instead and says that it did. `null` is never transformed, and a raw value that
a table does not know stays as it is.
-/

import DeviceMapping.Transformation.Basic
import DeviceMapping.Text.Blank

namespace DeviceMapping

/-- The number that a raw value reads as: a number itself, or a text that spells one between
blanks. -/
def Json.reading : Json → Except CalculationError Float
  | .integer value => .ok (Decimal.toFloat (value < 0) ⟨value.natAbs, 0⟩)
  | .double value => .ok value
  | .string text =>
    match readFloat? (Text.trimList text.toList) with
    | some value => .ok value
    | none => .error (.notNumeric text)
  | value => .error (.notNumeric value.render)

namespace Transformation

/-- The target of the first entry whose source is the text of the raw value, else the raw value. -/
def lookup (entries : List EnumEntry) (raw : Json) : Json :=
  match raw.scalarText? with
  | none => raw
  | some text =>
    match entries.find? fun entry => entry.source == text with
    | some entry => entry.target
    | none => raw

/-- The transformed value, or why there is none. -/
def tryApply (transformation : Transformation) (raw : Json) : Except CalculationError Json :=
  match raw, transformation with
  | .null, _ => .ok .null
  | raw, enumeration entries => .ok (lookup entries raw)
  | raw, math formula => do
    let x ← raw.reading
    let result ← formula.evaluate x
    .ok (.double result)

/-- The outcome of a transformation that falls back to the raw value. -/
structure Applied where
  value : Json
  failed : Bool

/-- The transformed value, or the raw value when the transformation fails. -/
def apply (transformation : Transformation) (raw : Json) : Applied :=
  match transformation.tryApply raw with
  | .ok value => ⟨value, false⟩
  | .error _ => ⟨raw, true⟩

end Transformation

end DeviceMapping
