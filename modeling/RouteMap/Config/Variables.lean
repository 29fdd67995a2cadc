import RouteMap.Config.Basic

/-!
# Configuration by environment variables

An environment variable `START__SECTION__FIELD` replaces a field of the configuration,
where `START` is chosen by the program. An empty text removes the value; the registry of
annotations is added to. Other variables mean nothing.

Variables are applied one after another. Each belongs to at most one field, and each field
to one name only, so their order decides nothing but which of several faults is reported.
-/

namespace RouteMap.Config

/-- A text that is not empty. -/
def nonempty (text : String) : Option String := if text.isEmpty then none else some text

/-- The truth value of a word, in letters of either case. -/
def flagOf? (text : String) : Option Bool :=
  let word := Text.lowerAscii text
  if ["true", "1", "yes", "on"].contains word then some true
  else if ["false", "0", "no", "off"].contains word then some false
  else none

/-- The port in a text; a blank text stands for none. -/
def portOf (text : String) : Except Expectation (Option UInt16) :=
  if (Text.trimmed text).isEmpty then .ok none
  else (Text.port? (Text.trimmed text)).elim (.error .port) fun p => .ok (some p)

/-- The parts of a name, which is cut at every two underscores from the left. -/
def parts : List Char → List (List Char)
  | [] => [[]]
  | '_' :: '_' :: cs => [] :: parts cs
  | c :: cs =>
    match parts cs with
    | [] => [[c]]
    | p :: ps => (c :: p) :: ps

/-- A field that a variable can replace. -/
inductive Field where
  | version
  | outputs
  | mappingFile
  | docsFile
  | backendHost
  | backendPort
  | action
  | filter
  | applicationPath
  | registry
  | logEnabled
  | logDirectives
  | logFormat
deriving DecidableEq, Repr

namespace Field

/-- The fields. -/
def all : List Field :=
  [version, outputs, mappingFile, docsFile, backendHost, backendPort, action, filter,
   applicationPath, registry, logEnabled, logDirectives, logFormat]

/-- The parts of the name of the variable of a field, behind the start. -/
def path : Field → List String
  | version => ["MAPPING", "VERSION"]
  | outputs => ["MAPPING", "MODE"]
  | mappingFile => ["MAPPING", "FILENAME"]
  | docsFile => ["MAPPING", "DOCS_FILENAME"]
  | backendHost => ["BACKEND", "HOST"]
  | backendPort => ["BACKEND", "PORT"]
  | action => ["DEFAULTS", "ACTION_CLASS"]
  | filter => ["DEFAULTS", "FILTER_CLASS"]
  | applicationPath => ["DEFAULTS", "APPLICATION_PATH"]
  | registry => ["ANNOTATIONS"]
  | logEnabled => ["LOGGING", "ENABLED"]
  | logDirectives => ["LOGGING", "LEVEL"]
  | logFormat => ["LOGGING", "FORMAT"]

/-- The field whose variable has a name of some parts behind the start. -/
def ofPath? (path : List String) : Option Field := all.find? fun f => f.path == path

/-- The name of the variable of a field. -/
def variableName (start : String) (f : Field) : String := start ++ "__" ++ Text.join "__" f.path

/-- The field of the variable of a name, if there is one. The name must begin with the start
and two underscores. -/
def named (start name : String) : Except Expectation (Option Field) :=
  match Text.after? (start ++ "__").toList name.toList with
  | none => .error .name
  | some rest => .ok (ofPath? ((parts rest).map String.ofList))

/-- The configuration with a field taken from a text. -/
def set (c : Config) (text : String) : Field → Except Expectation Config
  | version => .ok { c with version := nonempty text }
  | outputs =>
    match Output.listOf text with
    | .ok os => .ok { c with outputs := os }
    | .error _ => .error .outputs
  | mappingFile => .ok { c with mappingFile := nonempty text }
  | docsFile => .ok { c with docsFile := nonempty text }
  | backendHost => .ok { c with backendHost := nonempty text }
  | backendPort => (portOf text).map fun p => { c with backendPort := p }
  | action => .ok { c with action := nonempty text }
  | filter => .ok { c with filter := nonempty text }
  | applicationPath => .ok { c with applicationPath := nonempty text }
  | registry => .ok { c with registry := c.registry.merge (Registry.ofText text) }
  | logEnabled =>
    match flagOf? text with
    | some b => .ok { c with logging := { c.logging with enabled := b } }
    | none => .error .flag
  | logDirectives => .ok { c with logging := { c.logging with directives := text } }
  | logFormat =>
    match Log.Format.ofText? text with
    | some f => .ok { c with logging := { c.logging with format := f } }
    | none => .error .logFormat

end Field

/-- The configuration with a variable applied. -/
def override (start : String) (c : Config) (name text : String) : Except ConfigError Config :=
  match Field.named start name with
  | .error expected => .error (.invalidVariable name expected)
  | .ok none => .ok c
  | .ok (some f) => (f.set c text).mapError (.invalidVariable name)

/-- The configuration with variables applied one after another. -/
def overrideAll (start : String) (c : Config) (vs : List (String × String)) :
    Except ConfigError Config :=
  vs.foldlM (fun c (name, text) => override start c name text) c

end RouteMap.Config
