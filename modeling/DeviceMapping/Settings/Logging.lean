/-
**Settings of the log.**

The level is a filter: directives between commas. A directive is a level, a target, or a target with
a level behind `=`; a target begins with a letter, a number, `-`, `:` or `_` and may be narrowed to
a span in brackets and to fields of the span in braces. What a field must be like is written behind
`=`: a truth value, a number or a pattern. A level is a word in any case or a number up to five.

A directive is recognised without the blanks around it, but its parts are then taken at the same
places of the text with these blanks.
-/

import DeviceMapping.Decimal.Text
import DeviceMapping.Document
import DeviceMapping.Settings.Error
import DeviceMapping.Text.Blank
import DeviceMapping.Text.Letter
import DeviceMapping.Text.Pattern

namespace DeviceMapping

/-- How the log is written. -/
structure LoggingSettings where
  level : String
  json : Bool
  withTarget : Bool
  deriving DecidableEq

/-- The parts of a filter directive, read from left to right; of fields and levels the characters
that were kept so far. -/
inductive DirectivePart where
  | begun
  | levelOrTarget
  | span
  | field (kept : List Char)
  | fields
  | spanned
  | level (kept : List Char)

namespace DirectivePart

/-- A word is a level when it names one, in any case, or is a number up to five. -/
def isLevel (word : List Char) : Bool :=
  let digits := match word with
    | '+' :: digits => digits
    | _ => word
  (readDigits? digits).any (· ≤ 5) ||
    ["off", "error", "warn", "info", "debug", "trace"].contains
      (String.ofList (word.map Char.toLower))

/-- A field has a name and, behind `=`, a truth value, a number or a pattern, or no value at all. -/
def isField (kept : List Char) : Bool :=
  match (String.ofList kept).splitOn "=" with
  | _ :: value :: _ =>
    value = "true" || value = "false" || (readFloat? value.toList).isSome ||
      Pattern.isValid value.toList
  | _ => !kept.isEmpty

/-- A directive can begin with this character. -/
def isFirst (c : Char) : Bool :=
  c == '-' || c == ':' || c == '_' || Text.isLetterOrNumber c

/-- The part that a directive is in after one more character, which is kept as another one. -/
def next? (part : DirectivePart) (c kept : Char) : Option DirectivePart :=
  match part with
  | begun => if c = '[' then some span else if isFirst c then some levelOrTarget else none
  | levelOrTarget =>
    some (if c = '=' then level [] else if c = '[' then span else levelOrTarget)
  | span => some (if c = ']' then spanned else if c = '\x7b' then field [] else span)
  | field before =>
    if c = '\x7d' then if isField before then some fields else none
    else if c = ',' then if isField before then some (field []) else none
    else some (field (before ++ [kept]))
  | fields => if c = ']' then some spanned else none
  | spanned => if c = '=' then some (level []) else none
  | level before => some (level (before ++ [kept]))

/-- A directive can end in this part; a level goes on with what is left behind the directive. -/
def isComplete (part : DirectivePart) (left : List Char) : Bool :=
  match part with
  | levelOrTarget | spanned => true
  | level before => before ++ left = [] || isLevel (before ++ left)
  | begun | span | field _ | fields => false

end DirectivePart

namespace LoggingSettings

/-- The settings where nothing else is said. -/
def usual : LoggingSettings := ⟨"info", false, false⟩

/-- The text is a filter directive. -/
def isDirective (text : String) : Bool :=
  let trimmed := Text.trimList text.toList
  let part := (trimmed.zip text.toList).foldlM (fun part (c, kept) => part.next? c kept)
    DirectivePart.begun
  part.any (·.isComplete (text.toList.drop trimmed.length))

/-- The text is a filter: its directives stand between commas, some of them perhaps empty. -/
def isFilter (text : String) : Bool :=
  (text.splitOn ",").all fun directive => directive.isEmpty || isDirective directive

/-- Refuses a level that is no filter. -/
def validate (settings : LoggingSettings) : Except SettingsError Unit :=
  if isFilter settings.level then .ok () else .error (.logLevel settings.level)

def toJson (settings : LoggingSettings) : Json :=
  .object [("json", .bool settings.json), ("level", .string settings.level),
    ("with_target", .bool settings.withTarget)]

/-- The fields in order. -/
def fieldNames : List String :=
  ["level", "json", "with_target"]

def read? {δ : Type} [Document δ] (node : δ) : Option LoggingSettings := do
  let members ← Document.fields? fieldNames node
  let level ← Document.defaulted members "level" usual.level Document.text?
  let json ← Document.defaulted members "json" usual.json Document.boolean?
  let withTarget ← Document.defaulted members "with_target" usual.withTarget Document.boolean?
  some ⟨level, json, withTarget⟩

end LoggingSettings

end DeviceMapping
