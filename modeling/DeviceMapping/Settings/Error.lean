/-
**Errors of the settings.**

Settings are refused for a limit that must be positive, for a file that is missing or in a format
nobody knows, for layers that cannot be read as settings, and for a log level that is no filter.
-/

namespace DeviceMapping

/-- Why settings are refused. -/
inductive SettingsError where
  | notPositive (key : String)
  | fileNotFound (path : String)
  | unknownFormat (extension : Option String)
  | unreadable
  | logLevel (level : String)
  deriving DecidableEq

namespace SettingsError

/-- The text of an error; unreadable layers and log levels have none of their own. -/
def message? : SettingsError → Option String
  | notPositive key => some ("Configuration error: " ++ key ++ " must be > 0")
  | fileNotFound path => some ("Configuration error: Config file not found: " ++ path)
  | unknownFormat extension =>
    some ("Configuration error: Unsupported config file format: " ++ extension.getD "<none>")
  | unreadable | logLevel _ => none

end SettingsError

end DeviceMapping
