import RouteMap.Config.Loader
import RouteMap.Document.Documentation
import RouteMap.Input

/-!
# Generating the documents

A `Generator` has a valid configuration and a directory for its documents. `run`
assembles the endpoints of all methods and then writes the documents that are wanted,
first the mapping and then the documentation. If an endpoint fails nothing is written,
and if the mapping cannot be written neither is the documentation.
-/

namespace RouteMap

/-- Why a run ended without its documents. -/
inductive RunError where
  | config (cause : ConfigError)
  | input (cause : InputError)
  | endpoints (cause : BatchError)
  | document (cause : DocumentError)
  /-- The directives of the log are faulty. -/
  | logging
deriving DecidableEq, Repr, Inhabited

namespace RunError

/-- The class of an error, for messages. -/
def kind : RunError → String
  | config _ => "configuration"
  | input _ => "input"
  | endpoints _ => "endpoint"
  | document _ => "output"
  | logging => "logging"

/-- The text of the error. -/
def message : RunError → String
  | config cause => "Configuration error: " ++ cause.message
  | input cause => "Extraction error: " ++ cause.message
  | endpoints cause => "Extraction error: " ++ cause.message
  | document cause => "Output error: " ++ cause.message
  | logging => "Logging error: Failed to initialize logging"

end RunError

/-- What a successful run has done. -/
structure Summary where
  /-- The number of endpoints. -/
  endpoints : Nat
  /-- The files that were written, in this order. -/
  written : List String
deriving DecidableEq, Repr, Inhabited

/-- A valid configuration and the directory for relative file names. -/
structure Generator where
  config : Config
  valid : config.validate = .ok ()
  directory : String := "."

namespace Generator

/-- The generator of a configuration, if it is valid. -/
def ofConfig (c : Config) (directory : Option String) : Except ConfigError Generator :=
  match h : c.validate with
  | .ok () => .ok { config := c, valid := h, directory := directory.getD "." }
  | .error e => .error e

/-- Writes a document under a name in the directory. -/
def write (g : Generator) (name : String) (rendered : Except DocumentError String) :
    Session (Except DocumentError String) := do
  let path := Path.join g.directory name
  match rendered with
  | .error e => return .error e
  | .ok text =>
    match ← Session.save path text with
    | .error cause => return .error (.unwritable path cause)
    | .ok () =>
      Session.reportAll [.wroteDocument path text.utf8ByteSize]
      return .ok path

/-- The name and the text of a wanted document; `none` if it is not wanted. -/
def document (g : Generator) (es : List Endpoint) :
    Output → Option (String × Except DocumentError String)
  | .mapping =>
    if g.config.wants .mapping then
      g.config.mappingFile?.map fun name => (name, Mapping.render g.config.heading es)
    else none
  | .documentation =>
    if g.config.wants .documentation then
      g.config.docsFile?.map fun name =>
        (name, Documentation.render g.config.heading.version es)
    else none

/-- Writes the wanted ones of some documents behind those that were written before. -/
def writeAll (g : Generator) (es : List Endpoint) (written : List String) :
    List Output → Session (Except DocumentError (List String))
  | [] => return .ok written
  | o :: os =>
    match g.document es o with
    | none => g.writeAll es written os
    | some (name, rendered) => do
      match ← g.write name rendered with
      | .error e => return .error e
      | .ok path => g.writeAll es (written ++ [path]) os

/-- Assembles the endpoints of all methods and writes the wanted documents. -/
def run (g : Generator) (input : MethodSet) : Session (Except RunError Summary) := do
  let settings := g.config.settings
  Session.reportAll (settings.allWarnings input.methods)
  match settings.assembleAll input.methods with
  | .error e => return .error (.endpoints e)
  | .ok es =>
    Session.reportAll [.assembled input.size es.length]
    match ← g.writeAll es [] Output.all with
    | .error e => return .error (.document e)
    | .ok written =>
      Session.reportAll [.complete es.length written.length]
      return .ok { endpoints := es.length, written }

end Generator

end RouteMap
