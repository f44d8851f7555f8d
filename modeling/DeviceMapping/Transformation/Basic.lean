/-
**Transformations and their configuration.**

A transformation is a table of names, searched in order, or a formula. Its configuration is an
object with a type; `ofConfig` reads one, where a type nobody knows means no transformation, and
`toConfig` writes one. Tables are configured as a list of sources and targets or as an object.
-/

import DeviceMapping.Formula.Basic
import DeviceMapping.Json.Printer

namespace DeviceMapping

/-- One line of a table: the text of a raw value and what it becomes. -/
structure EnumEntry where
  source : String
  target : Json

/-- What happens to a raw value on its way to a canonical one. -/
inductive Transformation where
  | enumeration (entries : List EnumEntry)
  | math (formula : Formula)

/-- What is wrong with the configuration of a transformation. -/
inductive ConfigurationFault where
  | notAnObject
  | noExpression
  | noEntries
  | noSource (item : Json)
  | noTarget (item : Json)

namespace ConfigurationFault

/-- The fault by itself. -/
def reason : ConfigurationFault → String
  | notAnObject => "transformationConfig must be an object"
  | noExpression => "math transformation needs 'expression'"
  | noEntries => "mapping transformation needs 'rules' as a list or object"
  | noSource item => "enum rule without source: " ++ item.render
  | noTarget item => "enum rule without target: " ++ item.render

def message (fault : ConfigurationFault) : String :=
  "Invalid transformation config: " ++ fault.reason

end ConfigurationFault

/-- Why a transformation cannot be read. -/
inductive TransformationFault where
  | configuration (fault : ConfigurationFault)
  | unknownType

def TransformationFault.message : TransformationFault → String
  | configuration fault => fault.message
  | unknownType => "unknown transformation type"

/-- The text by which a raw value is looked up: strings as they are, everything else as it is
written, and nothing for `null`. -/
def Json.scalarText? : Json → Option String
  | .null => none
  | .string text => some text
  | value => some value.render

namespace EnumEntry

/-- An entry of a table from an item of a list. -/
def ofItem (item : Json) : Except ConfigurationFault EnumEntry :=
  match (item.member? "source").bind Json.scalarText? with
  | none => .error (.noSource item)
  | some source =>
    match item.member? "target" with
    | none => .error (.noTarget item)
    | some target => .ok ⟨source, target⟩

def toJson (entry : EnumEntry) : Json :=
  .record [("source", some (.string entry.source)), ("target", some entry.target)]

end EnumEntry

namespace Transformation

/-- The entries of a table from a list of items or from an object. -/
def entriesOf : Option Json → Except ConfigurationFault (List EnumEntry)
  | some (.array items) => items.mapM EnumEntry.ofItem
  | some (.object members) => .ok (members.map fun member => ⟨member.1, member.2⟩)
  | _ => .error .noEntries

/-- The transformation of a configuration; none when its type is unknown. -/
def ofConfig (config : Json) : Except ConfigurationFault (Option Transformation) :=
  match config with
  | .object members =>
    match members.lookup "type" with
    | some (.string "mapping") =>
      (entriesOf (members.lookup "rules")).map fun entries => some (enumeration entries)
    | some (.string "math") =>
      match members.lookup "expression" with
      | some (.string source) => .ok (some (math (Formula.compile source)))
      | _ => .error .noExpression
    | _ => .ok none
  | _ => .error .notAnObject

/-- The configuration of a transformation. -/
def toConfig : Transformation → Json
  | enumeration entries =>
    .record [("rules", some (.array (entries.map EnumEntry.toJson))),
      ("type", some (.string "mapping"))]
  | math formula =>
    .record [("expression", some (.string formula.source)), ("type", some (.string "math"))]

/-- Reads a transformation, which is written as its configuration; here its type must be known. -/
def read (config : Json) : Except TransformationFault Transformation :=
  match ofConfig config with
  | .ok (some transformation) => .ok transformation
  | .ok none => .error .unknownType
  | .error fault => .error (.configuration fault)

/-- The field that holds the configuration among the other fields of a rule. -/
def configKey : String := "transformationConfig"

/-- The transformation configured among the other fields of a rule, if there is one. -/
def ofOthers (others : Table Json) : Except ConfigurationFault (Option Transformation) :=
  match others.get? configKey with
  | none | some .null => .ok none
  | some config => ofConfig config

/-- Tables with the same sources and targets in order, or formulas with one source. -/
def sameAs : Transformation → Transformation → Bool
  | enumeration first, enumeration second =>
    first.length == second.length && (first.zip second).all fun pair =>
      pair.1.source == pair.2.source && pair.1.target.sameAs pair.2.target
  | math first, math second => first.source == second.source
  | _, _ => false

end Transformation

end DeviceMapping
