/-
**Running the command.**

A command reads its settings, its fixtures and its rule store, in this order, and then does what its
action says. It prints a title, a JSON value and notes, or fails with the first cause. Without a
database the rules of the fixtures are kept in memory and changes last as long as the command.
-/

import DeviceMapping.Command.Arguments
import DeviceMapping.Command.Fixtures
import DeviceMapping.Service.Basic
import DeviceMapping.Settings.Layer
import DeviceMapping.Store.Location
import DeviceMapping.Store.Memory

namespace DeviceMapping

/-- Why a command fails. -/
inductive CommandError where
  | settings (cause : SettingsError)
  | unreadableFixtures (path : String)
  | invalidFixtures (path : String)
  | closedStore (location : String)
  | unreadablePayload (path : String)
  | invalidPayload
  | unreadableRules (path : String)
  | invalidRules
  | mapping (cause : MappingError)

namespace CommandError

def message : CommandError → String
  | settings (.logLevel level) =>
    "Configuration error: Invalid log level '" ++ level ++ "': invalid filter directive"
  | settings cause => cause.message?.getD "Configuration error: the settings cannot be read"
  | unreadableFixtures path => "Failed to read fixtures " ++ path
  | invalidFixtures path => "Invalid fixtures " ++ path
  | closedStore location => "Failed to open rule store " ++ location
  | unreadablePayload path => "Failed to read payload " ++ path
  | invalidPayload => "Payload must be a JSON object"
  | unreadableRules path => "Failed to read rules " ++ path
  | invalidRules => "the rules cannot be read"
  | mapping cause => cause.message?.getD "Store error: the rules cannot be read"

end CommandError

/-- What a command prints. -/
structure Printed where
  title : String
  value : Json
  notes : List String

namespace Command

/-- The settings of an invocation; the log level must be a filter unless the environment gives
one. -/
def settings (files : Files) (environment : List (String × String)) (invocation : Invocation) :
    Except SettingsError Settings := do
  let loaded ← Layer.load files invocation.config environment
  let logging :=
    if invocation.verbose then { loaded.logging with level := "debug" } else loaded.logging
  if !(environment.lookup "RUST_LOG").any LoggingSettings.isFilter then logging.validate
  .ok { loaded with logging := logging }

/-- The fixtures of an invocation; none without a file. -/
def fixtures (files : Files) (invocation : Invocation) : Except CommandError Fixtures :=
  match invocation.fixtures with
  | none => .ok .empty
  | some path =>
    match files.textAt? path with
    | none => .error (.unreadableFixtures path)
    | some text =>
      match Fixtures.ofText? text with
      | some fixtures => .ok fixtures
      | none => .error (.invalidFixtures path)

/-- The payload that an argument gives, or the file it names behind an at sign. -/
def payload (files : Files) (argument : String) : Except CommandError (Table Json) := do
  let text ← match argument.toList with
    | '@' :: path =>
      match files.textAt? (String.ofList path) with
      | some text => .ok text
      | none => .error (.unreadablePayload (String.ofList path))
    | _ => .ok argument
  match (Json.read? text).bind Document.object? with
  | some payload => .ok payload
  | none => .error .invalidPayload

/-- The rules of a file. -/
def rules (files : Files) (path : String) : Except CommandError (List Rule) :=
  match files.textAt? path with
  | none => .error (.unreadableRules path)
  | some text =>
    match Rule.listOfText? path text with
    | some rules => .ok rules
    | none => .error .invalidRules

/-- The note on transformations that fell back to the raw value. -/
def fallbackNotes (failures : Nat) : List String :=
  if failures = 0 then []
  else ["WARN " ++ toString failures ++ " transformation(s) fell back to the raw value"]

/-- The note on changes that are lost. -/
def storeNotes (persistent : Bool) : List String :=
  if persistent then [] else ["NOTE No database configured, changes were not persisted"]

/-- What resolving a mapping prints. -/
def printDetails (title : String) (result : Except MappingError (List Detail)) :
    Except CommandError Printed :=
  match result with
  | .ok details => .ok ⟨title, .array (details.map Detail.toJson), []⟩
  | .error error => .error (.mapping error)

/-- What saving rules prints. -/
def printSummary (title : String) (persistent : Bool)
    (result : Except MappingError Binding.Summary) : Except CommandError Printed :=
  match result with
  | .ok summary => .ok ⟨title, summary.toJson, storeNotes persistent⟩
  | .error error => .error (.mapping error)

/-- Does what an action says. -/
def act {σ : Type} [RuleStore σ] (files : Files) (settings : Settings) (registry : Registry)
    (store : σ) (persistent : Bool) (action : Action) : Except CommandError Printed := do
  let service := Service.new registry store settings.cache false
  match action with
  | .resolve device =>
    printDetails ("Mapping of device " ++ device) (Resolution.resolve registry store device)
  | .resolveProduct product =>
    printDetails ("Mapping of product " ++ product)
      (Resolution.resolveProduct registry store product)
  | .transform device argument =>
    let raw ← payload files argument
    let (after, properties) := service.transform device raw
    .ok ⟨"Properties of device " ++ device, .ofTable properties, fallbackNotes after.failures⟩
  | .bindDevice device path =>
    let rules ← rules files path
    printSummary ("Saved mapping of device " ++ device) persistent
      (service.saveDevice device rules).2
  | .bindProduct product path =>
    let rules ← rules files path
    printSummary ("Saved mapping of product " ++ product) persistent
      (service.saveProduct product rules).2

/-- The rows of a database; of files none has any yet. -/
def openDatabase (files : Files) (location : String) : Except CommandError RowStore :=
  match (Location.ofText? location).bind fun place => (place.openStore files none).toOption with
  | some store => .ok store
  | none => .error (.closedStore location)

/-- Runs an invocation over the files it can see. -/
def run (files : Files) (environment : List (String × String)) (invocation : Invocation) :
    Except CommandError Printed := do
  let settings ← (settings files environment invocation).mapError .settings
  let fixtures ← fixtures files invocation
  match settings.database with
  | some location =>
    let store ← openDatabase files location
    act files settings fixtures.registry store true invocation.action
  | none =>
    let store := (MemoryStore.empty.save fixtures.rules).1
    act files settings fixtures.registry store false invocation.action

/-- The paths of the files that an invocation may read. -/
def paths (invocation : Invocation) : List String :=
  Layer.standardFiles.map (·.1) ++ invocation.config.toList ++ invocation.fixtures.toList ++
    match invocation.action with
    | .transform _ argument =>
      match argument.toList with
      | '@' :: path => [String.ofList path]
      | _ => []
    | .bindDevice _ path | .bindProduct _ path => [path]
    | .resolve _ | .resolveProduct _ => []

end Command

end DeviceMapping
