import RouteMap.FileSystem.Basic
import RouteMap.Json.Token

/-!
# Configuration errors

Why no configuration could be loaded, or why the one that was loaded is of no use.
-/

namespace RouteMap

/-- What an environment variable should have been. -/
inductive Expectation where
  /-- A name that begins as those of variables do. -/
  | name
  | outputs
  | port
  | flag
  | logFormat
deriving DecidableEq, Repr, Inhabited

/-- The text of an expectation. -/
def Expectation.message : Expectation → String
  | name => "invalid key format"
  | outputs => "expected 'mapping', 'doc' or both"
  | port => "expected port number"
  | flag => "expected boolean"
  | logFormat => "expected 'json' or 'pretty'"

/-- Why there is no configuration. -/
inductive ConfigError where
  | fileNotFound (path : String)
  | unreadable (path : String) (cause : FileError)
  /-- A TOML text with a fault in it, or of the wrong shape. -/
  | invalidToml
  | invalidJson (category : Json.Category)
  /-- The name of an output that there is not. -/
  | unknownOutput (name : String)
  /-- A value that was not given. -/
  | missing (field : String)
  /-- An environment variable with a name or a value that it cannot have. -/
  | invalidVariable (name : String) (expected : Expectation)
  /-- A file of environment variables that is unreadable or faulty. -/
  | invalidEnvFile
  /-- No output is wanted. -/
  | noOutputs
  | unknownFormat (name : String)
  /-- A file whose name has no known extension. -/
  | unknownFileFormat (path : String)
deriving DecidableEq, Repr, Inhabited

namespace ConfigError

/-- What is wrong with a configuration that was loaded. -/
def invalid (reason : String) : String := "configuration validation failed: " ++ reason

/-- The text of the error. -/
def message : ConfigError → String
  | fileNotFound path => "configuration file not found: " ++ path
  | unreadable path _ => "failed to read configuration file: " ++ path
  | invalidToml => "failed to parse TOML configuration"
  | invalidJson _ => "failed to parse JSON configuration"
  | unknownOutput name =>
    "invalid configuration value for mapping.mode: unknown mode '" ++ name
      ++ "', expected 'mapping' or 'doc'"
  | missing field => "missing required configuration field: " ++ field
  | invalidVariable name expected =>
    "failed to parse environment variable " ++ name ++ ": " ++ expected.message
  | invalidEnvFile => "failed to load .env file"
  | noOutputs => invalid "mapping.mode must request at least one of 'mapping' or 'doc'"
  | unknownFormat name => invalid ("unsupported configuration format: " ++ name)
  | unknownFileFormat path => invalid ("unsupported configuration file format: " ++ path)

end ConfigError

end RouteMap
