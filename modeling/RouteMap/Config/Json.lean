import RouteMap.Config.Basic
import RouteMap.Json.Field
import RouteMap.Json.Printer
import RouteMap.Toml.Document

/-!
# Configuration texts

A configuration is a record of sections, in JSON or in TOML. Every section and every
field may be left out, and none may be unknown. In JSON, absent values are written as
null.
-/

namespace RouteMap.Config

/-- The shape of a configuration. -/
def shape : Json.Shape :=
  .record true (.ofList
    [("mapping", .defaulted, .record true (.ofList
       [("version", .nullable, .text),
        ("mode", .defaulted, .list (.choice (Output.all.map Output.name))),
        ("filename", .nullable, .text),
        ("docs_filename", .nullable, .text)])),
     ("backend", .defaulted, .record true (.ofList
       [("host", .nullable, .text), ("port", .nullable, Json.portShape)])),
     ("defaults", .defaulted, .record true (.ofList
       [("action_class", .nullable, .text),
        ("filter_class", .nullable, .text),
        ("application_path", .nullable, .text)])),
     ("annotations", .defaulted, Registry.shape),
     ("logging", .defaulted, .record true (.ofList
       [("enabled", .defaulted, .flag),
        ("level", .defaulted, .text),
        ("format", .defaulted, .choice (Log.Format.all.map Log.Format.name))]))])

/-- The JSON form of a text that may be absent. -/
def textJson (t : Option String) : Json := Json.nullable (t.map .string)

/-- The JSON form of a configuration. -/
def toJson (c : Config) : Json :=
  .object
    [("mapping", .object
       [("version", textJson c.version),
        ("mode", .array (c.outputs.map fun o => .string o.name)),
        ("filename", textJson c.mappingFile),
        ("docs_filename", textJson c.docsFile)]),
     ("backend", .object
       [("host", textJson c.backendHost),
        ("port", Json.nullable (c.backendPort.map Json.port))]),
     ("defaults", .object
       [("action_class", textJson c.action),
        ("filter_class", textJson c.filter),
        ("application_path", textJson c.applicationPath)]),
     ("annotations", c.registry.toJson),
     ("logging", .object
       [("enabled", .bool c.logging.enabled),
        ("level", .string c.logging.directives),
        ("format", .string c.logging.format.name)])]

/-- The outputs in a field; the mapping if the field is absent. -/
def outputs? (j : Json) (name : String) : Option (List Output) :=
  match j.field? name with
  | none => some [.mapping]
  | some v => (v.asArray?.getD []).mapM fun o => o.asString?.bind Output.ofName?

/-- The configuration of its JSON form. -/
def ofJson? (j : Json) : Option Config := do
  let part (name : String) : Json := (j.field? name).getD (.object [])
  return {
    version := (part "mapping").text? "version"
    outputs := ← outputs? (part "mapping") "mode"
    mappingFile := (part "mapping").text? "filename"
    docsFile := (part "mapping").text? "docs_filename"
    backendHost := (part "backend").text? "host"
    backendPort := (part "backend").port? "port"
    action := (part "defaults").text? "action_class"
    filter := (part "defaults").text? "filter_class"
    applicationPath := (part "defaults").text? "application_path"
    registry := ← Registry.ofJson? (part "annotations")
    logging :=
      { enabled := ((part "logging").flag? "enabled").getD true
        directives := ((part "logging").text? "level").getD "info"
        format := (((part "logging").text? "format").bind Log.Format.ofName?).getD .pretty } }

/-- The configuration in a JSON text. -/
def ofJsonText (text : String) : Except ConfigError Config :=
  match shape.read text with
  | .error c => .error (.invalidJson c)
  | .ok j => (ofJson? j).elim (.error (.invalidJson .mismatch)) .ok

/-- The configuration in a TOML text. -/
def ofTomlText (text : String) : Except ConfigError Config :=
  match Toml.node? text with
  | none => .error .invalidToml
  | some node =>
    match node.conform .toml Json.maxDepth shape with
    | .error _ => .error .invalidToml
    | .ok j => (ofJson? j).elim (.error .invalidToml) .ok

/-! ## Formats -/

/-- The formats of configuration texts. -/
inductive TextFormat where
  | toml
  | json
deriving DecidableEq, Repr

/-- The format of a name in letters of either case. -/
def TextFormat.ofName? (name : String) : Option TextFormat :=
  let name := Text.lowerAscii name
  if name = "toml" then some toml
  else if name = "json" then some json
  else none

/-- The configuration in a text of a format. -/
def ofText : TextFormat → String → Except ConfigError Config
  | .toml => ofTomlText
  | .json => ofJsonText

/-- The configuration in the text of a file, whose extension names the format. -/
def ofFileText (path text : String) : Except ConfigError Config :=
  match (Path.extension? path).bind TextFormat.ofName? with
  | some format => ofText format text
  | none => .error (.unknownFileFormat path)

end RouteMap.Config
