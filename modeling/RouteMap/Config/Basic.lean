import RouteMap.Annotation.Registry
import RouteMap.Config.Outputs
import RouteMap.Endpoint.Assembly
import RouteMap.Document.Mapping
import RouteMap.Log.Settings

/-!
# Configurations

A `Config` holds the values that were given for a run. A blank text and the word
`null` stand for a value that was not given; `version?` and its neighbours read them
so. `Config.validate` says whether a configuration has what its outputs need.
-/

namespace RouteMap

/-- The part of a configuration that is about the log. -/
structure Config.Logging where
  enabled : Bool := true
  directives : String := "info"
  format : Log.Format := .pretty
deriving DecidableEq, Repr, Inhabited

/-- A configuration. -/
structure Config where
  version : Option String := none
  /-- The documents to write. -/
  outputs : List Output := [.mapping]
  mappingFile : Option String := none
  docsFile : Option String := none
  backendHost : Option String := none
  backendPort : Option UInt16 := none
  action : Option String := none
  filter : Option String := none
  applicationPath : Option String := none
  registry : Registry := .empty
  logging : Config.Logging := {}
deriving DecidableEq, Inhabited

namespace Config

/-- Whether a text is the word `null`, in letters of either case. -/
def isNull (text : String) : Bool := Text.lowerAscii text = "null"

/-- A value that was given, without blanks at its ends. -/
def given (value : Option String) : Option String :=
  (value.map Text.trimmed).filter fun v => !v.isEmpty && !isNull v

/-! ## Values in effect -/

/-- The version. -/
def version? (c : Config) : Option String := given c.version

/-- The host of the backend. -/
def host? (c : Config) : Option String := given c.backendHost

/-- The file of the mapping. The word `null` stands for a name that is made of the
version. -/
def mappingFile? (c : Config) : Option String :=
  match c.mappingFile with
  | none => none
  | some file =>
    match given (some file) with
    | some name => some name
    | none =>
      if isNull (Text.trimmed file) then
        c.version?.map fun v => "output_mapping_" ++ v ++ ".json"
      else none

/-- The file of the documentation. -/
def docsFile? (c : Config) : Option String := given c.docsFile

/-- The action of endpoints that have none of their own. -/
def action? (c : Config) : Option String := given c.action

/-- The filter of endpoints that have none of their own. -/
def filter? (c : Config) : Option String := given c.filter

/-- Whether an output is wanted. -/
def wants (c : Config) (o : Output) : Bool := c.outputs.contains o

/-- The settings of the log. -/
def logSettings (c : Config) : Log.Settings where
  enabled := c.logging.enabled
  directives := c.logging.directives
  format := c.logging.format

/-! ## Validation -/

/-- An error unless a value is there. -/
def require {α : Type} (field : String) : Option α → Except ConfigError Unit
  | some _ => .ok ()
  | none => .error (.missing field)

/-- Whether a configuration has what its outputs need: the version, at least one
output, for the mapping a backend and a file, and for the documentation a file. -/
def validate (c : Config) : Except ConfigError Unit := do
  require "mapping.version" c.version?
  if c.outputs.isEmpty then throw .noOutputs
  if c.wants .mapping then
    require "backend.host" c.host?
    require "backend.port" c.backendPort
    require "mapping.filename" c.mappingFile?
  if c.wants .documentation then
    require "mapping.docs_filename" c.docsFile?

/-! ## What a run takes from it -/

/-- The backend's host and port, if both are given. -/
def backend (c : Config) : Option (String × UInt16) := do
  return (← c.host?, ← c.backendPort)

/-- The settings of the assembly. -/
def settings (c : Config) : Settings where
  version := c.version?.getD ""
  backendHost := c.backend.map Prod.fst
  backendPort := c.backend.map Prod.snd
  action := c.action?
  filter := c.filter?
  applicationPath := c.applicationPath
  registry := c.registry

/-- What the mapping needs beside its endpoints. -/
def heading (c : Config) : Mapping.Heading where
  version := some (c.version?.getD "")
  host := c.backend.map Prod.fst
  port := c.backend.map Prod.snd

end Config

end RouteMap
