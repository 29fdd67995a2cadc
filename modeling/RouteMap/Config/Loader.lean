import RouteMap.Config.Json
import RouteMap.Config.Variables
import RouteMap.EnvFile
import RouteMap.Session
import RouteMap.Text.Raw

/-!
# Loading a configuration

A `Loader` collects a configuration in layers, later ones over earlier ones: the
defaults, texts and files, environment variables, and outputs that are asked for.

A text or a file replaces the whole configuration that was loaded before. Variables
come from the environment and from files of variables; the environment comes first,
and of the files the entry that was read first.

The variables of a process are bytes. `load` takes those that are texts, and `finish`
loads in a process: if variables count at all it reads every one of them, and panics at
one that is no text.
-/

namespace RouteMap

/-- The environment of a process. -/
structure Environment where
  /-- The names and values of the variables. -/
  assignments : List (RawText × RawText) := []
  /-- How many directories the working directory is inside of. -/
  depth : Nat := 0
deriving Inhabited

namespace Environment

/-- Whether the names and values of all variables are texts. -/
def isText (e : Environment) : Bool :=
  e.assignments.all fun (name, value) => name.isText && value.isText

/-- The variables whose names and values are texts. -/
def texts (e : Environment) : List (String × String) :=
  e.assignments.filterMap fun (name, value) => do return (← name.text?, ← value.text?)

/-- The value of a variable. Of several assignments to a name the last one counts. -/
def get? (e : Environment) (name : String) : Option String := e.texts.reverse.lookup name

/-- What stands behind a text and an equals sign in the first assignment `NAME=value` that
begins so, if it is a text. This is the value of a variable, but the text may also reach into
the value. -/
def behind? (e : Environment) (text : String) : Option String := do
  let rest ← e.assignments.findSome? fun (name, value) =>
    RawText.behind? (text ++ "=").toUTF8 (name.toBytes ++ "=".toUTF8 ++ value.toBytes)
  rest.text?

end Environment

/-- A configuration in the course of loading. -/
structure Loader where
  config : Config := {}
  /-- What the names of variables begin with, if they count at all. -/
  start : Option String := none
  /-- The outputs that are asked for. -/
  outputs : Option (List Output) := none
  /-- Variables from files, in the order in which they were read. -/
  entries : List (String × String) := []
  /-- Whether a configuration file was read. -/
  fileLoaded : Bool := false
deriving DecidableEq, Inhabited

namespace Loader

/-! ## Layers -/

/-- Goes back to the defaults. -/
def withDefaults (l : Loader) : Loader := { l with config := {} }

/-- Takes a text whose format is named. -/
def withText (l : Loader) (text format : String) : Except ConfigError Loader :=
  match Config.TextFormat.ofName? format with
  | some f => (Config.ofText f text).map fun c => { l with config := c }
  | none => .error (.unknownFormat format)

/-- Takes a file that must exist. -/
def withFile (l : Loader) (path : String) : Session (Except ConfigError Loader) := do
  match ← Session.kindOf? path with
  | none => return .error (.fileNotFound path)
  | some _ =>
    match ← Session.textOf path with
    | .error cause => return .error (.unreadable path cause)
    | .ok text =>
      return (Config.ofFileText path text).map fun c =>
        { l with config := c, fileLoaded := true }

/-- Takes a file if it exists. -/
def withOptionalFile (l : Loader) (path : String) : Session (Except ConfigError Loader) := do
  match ← Session.kindOf? path with
  | none => return .ok l
  | some _ => l.withFile path

/-- Lets variables count whose names begin with a text, in capital letters. -/
def withVariables (l : Loader) (start : String) : Loader :=
  { l with start := some (Text.upperCase start) }

/-- Asks for outputs. -/
def withOutputs (l : Loader) (os : List Output) : Loader := { l with outputs := some os }

/-! ## Files of variables -/

/-- Takes the variables in the text of a file. -/
def withEntries (l : Loader) (e : Environment) (text : String) : Except ConfigError Loader :=
  match EnvFile.entries? e.behind? text with
  | some entries => .ok { l with entries := l.entries ++ entries }
  | none => .error .invalidEnvFile

/-- Takes a file of variables that must exist. -/
def withEnvFile (l : Loader) (e : Environment) (path : String) :
    Session (Except ConfigError Loader) := do
  match ← Session.textOf path with
  | .error .notFound => return .error (.fileNotFound path)
  | .error _ => return .error .invalidEnvFile
  | .ok text => return l.withEntries e text

/-- The file of variables in the working directory or the nearest directory above that
has one, where `up` leads from the working directory to the first one. -/
def findEnvFile (up : String) : (depth : Nat) → Session (Option String)
  | 0 => do
    match ← Session.kindOf? (up ++ ".env") with
    | some .file => return some (up ++ ".env")
    | _ => return none
  | depth + 1 => do
    match ← Session.kindOf? (up ++ ".env") with
    | some .file => return some (up ++ ".env")
    | _ => findEnvFile (up ++ "../") depth

/-- Takes the file of variables of the working directory, if there is one. -/
def withNearestEnvFile (l : Loader) (e : Environment) :
    Session (Except ConfigError Loader) := do
  match ← findEnvFile "" e.depth with
  | none => return .ok l
  | some path => l.withEnvFile e path

/-! ## The configuration -/

/-- The variables whose names begin with the start and two underscores. Of the entries of
files the first one counts, and the environment replaces them all. -/
def overrides (l : Loader) (e : Environment) (start : String) : Table String :=
  let counts (entry : String × String) : Bool :=
    (start ++ "__").toList.isPrefixOf entry.1.toList
  (e.texts.filter counts).foldl (fun t (name, text) => t.insert name text)
    (Table.ofListFirst (l.entries.filter counts))

/-- The configuration with the outputs that are asked for. -/
def withAskedOutputs (l : Loader) (c : Config) : Config :=
  match l.outputs with
  | some os => { c with outputs := os }
  | none => c

/-- The configuration without variables and without validation. -/
def loadUnvalidated (l : Loader) : Config := l.withAskedOutputs l.config

/-- The configuration with variables. -/
def resolve (l : Loader) (e : Environment) : Except ConfigError Config :=
  match l.start with
  | none => .ok (l.withAskedOutputs l.config)
  | some start =>
    (Config.overrideAll start l.config (l.overrides e start).entries).map l.withAskedOutputs

/-- The valid configuration of all layers, with the variables that are texts. -/
def load (l : Loader) (e : Environment) : Except ConfigError Config := do
  let c ← l.resolve e
  c.validate
  return c

/-- Why a process has no configuration. -/
inductive Stop where
  /-- There is an error to report. -/
  | reported (cause : ConfigError)
  /-- The process ends at once. -/
  | panic
deriving DecidableEq, Repr, Inhabited

/-- The valid configuration of all layers in a process. If variables count, all of them are
read, whatever their names, before any is used. -/
def finish (l : Loader) (e : Environment) : Except Stop Config :=
  if l.start.isSome && !e.isText then .error .panic
  else (l.load e).mapError .reported

end Loader

end RouteMap
