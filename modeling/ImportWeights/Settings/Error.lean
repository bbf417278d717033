import ImportWeights.Files.OsError
import ImportWeights.Files.Path
import ImportWeights.Logging.Context

/-! What can be wrong with a configuration. The user can act on all of it. -/

namespace ImportWeights.Settings

open ImportWeights.Files

inductive ConfigError where
  | missingFile (path : Path)
  | unreadable (path : Path) (cause : OsError)
  /-- The file is no TOML document. -/
  | malformed (path : Path)
  | invalidValue (key reason : String)
deriving DecidableEq, Repr

def ConfigError.message : ConfigError → String
  | missingFile path => "The specified configuration file does not exist: " ++ path.display
  | unreadable path cause =>
    "Error reading configuration file " ++ path.display ++ ": " ++ cause.message
  | malformed path =>
    "Error parsing configuration file " ++ path.display ++ ": not a TOML document"
  | invalidValue key reason => "Invalid value for '" ++ key ++ "': " ++ reason

def ConfigError.hint : ConfigError → String
  | missingFile _ => "check the --config-file path"
  | unreadable .. | malformed _ => "fix or remove the configuration file"
  | invalidValue _ reason => reason

def ConfigError.details : ConfigError → String
  | missingFile path => Text.shownRecord "MissingFile" [("path", path.quoted)]
  | unreadable path cause =>
    Text.shownRecord "Read" [("path", path.quoted), ("source", cause.details)]
  | malformed path => Text.shownRecord "Parse" [("path", path.quoted)]
  | invalidValue key reason => Text.shownRecord "InvalidValue"
      [("key", Text.quoted key), ("message", Text.quoted reason)]

instance : Logging.Contextual ConfigError where
  message := ConfigError.message
  details := ConfigError.details
  isActionable _ := true
  userMessage? e := some e.hint

end ImportWeights.Settings
