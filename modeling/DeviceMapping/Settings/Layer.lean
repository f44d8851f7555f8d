/-
**Layers of settings.**

Settings come in layers: the usual ones, the files of the configuration directory, a file that is
named, and the environment. A later layer goes over an earlier one field by field; anything else in
place of an object replaces what was there. A named file must exist and be in a known format before
anything is read.
-/

import DeviceMapping.Files
import DeviceMapping.Json.Reader
import DeviceMapping.Settings.Basic
import DeviceMapping.Settings.Environment
import DeviceMapping.Toml.Reader
import DeviceMapping.Yaml.Reader

namespace DeviceMapping

/-- The formats of configuration files. -/
inductive FileFormat where
  | toml
  | yaml
  | json
  deriving DecidableEq

namespace FileFormat

def ofExtension? (extension : String) : Option FileFormat :=
  match extension with
  | "toml" => some toml
  | "yaml" | "yml" => some yaml
  | "json" => some json
  | _ => none

/-- The value of a text in a format. -/
def read? (format : FileFormat) (text : String) : Option Json :=
  match format with
  | toml => Toml.read? text
  | yaml => (Yaml.read? text).bind fun node =>
      match node with
      | .scalar "" true _ => some (.object [])
      | node => node.value? .settings Yaml.nestingLimit
  | json => Json.read? text

end FileFormat

namespace Layer

mutual

/-- A value with another one over it. -/
def merge (lower : Json) : Json → Json
  | .object upper =>
    match lower with
    | .object lower => .object (mergeMembers lower upper)
    | _ => .object (mergeMembers [] upper)
  | upper => upper

/-- Members with others over them. -/
def mergeMembers (lower : List (String × Json)) : List (String × Json) → List (String × Json)
  | [] => lower
  | (name, value) :: rest =>
    match lower.lookup name with
    | some old =>
      let replaced := lower.map fun member =>
        if member.1 = name then (name, merge old value) else member
      mergeMembers replaced rest
    | none => mergeMembers (lower ++ [(name, merge .null value)]) rest

end

/-- The files that are looked for, and their formats. -/
def standardFiles : List (String × FileFormat) :=
  [("config/propmap.toml", .toml), ("config/propmap.yaml", .yaml), ("config/propmap.json", .json)]

/-- The format of a named file, which must exist. -/
def formatOf (files : Files) (path : String) : Except SettingsError FileFormat :=
  if files.pathExists path then
    match (Files.extension path).bind FileFormat.ofExtension? with
    | some format => .ok format
    | none => .error (.unknownFormat (Files.extension path))
  else .error (.fileNotFound path)

/-- The object of a file that may be missing; nothing if it holds no object. -/
def ofFile? (files : Files) (file : String × FileFormat) : Option Json :=
  match files.textAt? file.1 with
  | none => some (.object [])
  | some text => (file.2.read? text).filter fun value => value.members?.isSome

/-- The layer of an environment, in which a later variable goes over an earlier one. -/
def ofEnvironment (environment : List (String × String)) : Json :=
  (Environment.objects environment).foldl merge (.object [])

/-- The settings of a list of layers, the usual ones below. -/
def settings? (layers : List Json) : Option Settings :=
  ((layers.foldl merge Settings.usual.toJson).members?).bind Settings.ofMembers?

/-- The settings of files and environment. -/
def load (files : Files) (named : Option String) (environment : List (String × String)) :
    Except SettingsError Settings := do
  let chosen ← match named with
    | some path => (formatOf files path).map fun format => [(path, format)]
    | none => .ok []
  let settings := do
    let layers ← (standardFiles ++ chosen).mapM (ofFile? files)
    settings? (layers ++ [ofEnvironment environment])
  match settings with
  | some settings =>
    settings.validate
    .ok settings
  | none => .error .unreadable

end Layer

end DeviceMapping
