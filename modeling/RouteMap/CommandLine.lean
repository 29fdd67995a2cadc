import RouteMap.Generator

/-!
# The command line

`CommandLine.program` is the whole program as a session: it reads its command line, loads
the configuration, reads the methods and generates the documents. Its result is what
the program prints and its exit code: 0 or 1, or that of a panic. The program panics when
it comes to an argument that is no text, its own name among them, and when it loads its
configuration in an environment with a variable that is none. `CommandLine.run` is the
program under its name on arguments that are texts.
-/

namespace RouteMap.CommandLine

/-- The name of the program. -/
def programName := "apifest-gen"

/-- What the program prints, and its exit code. -/
structure Result where
  code : UInt32 := 0
  output : String := ""
  errors : String := ""
  /-- How the events of the run are shown. -/
  log : Log.Settings := { enabled := false }
deriving DecidableEq, Repr, Inhabited

/-- The arguments of a run. -/
structure Arguments where
  /-- The file with the methods. -/
  input : Option String := none
  /-- The configuration file. -/
  config : Option String := none
  /-- The outputs that are asked for. -/
  outputs : Option String := none
  /-- The directory for relative file names. -/
  directory : Option String := none
deriving DecidableEq, Repr, Inhabited

/-! ## Texts -/

/-- The help text. -/
def help : String :=
"ApiFest mapping generator - routing mapping and endpoint documentation

USAGE:
    apifest-gen --input <PATH> [OPTIONS]

OPTIONS:
    -i, --input <PATH>        Method descriptor document (JSON)
    -c, --config <PATH>       Configuration file (TOML or JSON, default: apifest.toml if present)
    -m, --mode <MODES>        Documents to produce: mapping, doc or mapping,doc
    -o, --output-dir <PATH>   Directory for relative output file names (default: .)
    -h, --help                Print help information
    -v, --version             Print version information

ENVIRONMENT VARIABLES:
    APIFEST__MAPPING__VERSION          Mapping version (required)
    APIFEST__MAPPING__MODE             Documents to produce
    APIFEST__MAPPING__FILENAME         Routing mapping output file
    APIFEST__MAPPING__DOCS_FILENAME    Documentation output file
    APIFEST__BACKEND__HOST             Default backend host
    APIFEST__BACKEND__PORT             Default backend port
    APIFEST__DEFAULTS__ACTION_CLASS    Default action class
    APIFEST__DEFAULTS__FILTER_CLASS    Default filter class
    APIFEST__DEFAULTS__APPLICATION_PATH
                                       Prefix for internal paths (null: none)
    APIFEST__ANNOTATIONS               Custom annotations (Type[:attr],...)
    APIFEST__LOGGING__ENABLED          Enable logging (default: true)
    APIFEST__LOGGING__LEVEL            Log filter directive (default: info)
    APIFEST__LOGGING__FORMAT           Log format: pretty or json (default: pretty)

    Variables are also read from a .env file when one is present.

EXAMPLES:
    # Generate the routing mapping
    apifest-gen --input methods.json --config apifest.toml

    # Generate both documents
    apifest-gen -i methods.json -m mapping,doc

"

/-- The line that tells the version. -/
def version : String := programName ++ " 0.1.0\n"

/-- The result of a panic, without what the runtime says about it. -/
def crash : Result where
  code := 101

/-- The result of arguments that cannot be used. -/
def misuse (reason : String) : Result where
  code := 1
  errors := reason ++ "\nUse --help for usage information\n"

/-! ## Arguments -/

/-- An argument that takes a value. -/
inductive Flag where
  | input
  | config
  | outputs
  | directory
deriving DecidableEq, Repr

/-- The flag of an argument. -/
def Flag.ofText? (text : String) : Option Flag :=
  if ["--input", "-i"].contains text then some input
  else if ["--config", "-c"].contains text then some config
  else if ["--mode", "-m"].contains text then some outputs
  else if ["--output-dir", "-o"].contains text then some directory
  else none

/-- The arguments with the value of a flag; a later value replaces an earlier one. -/
def Arguments.set (a : Arguments) (value : String) : Flag → Arguments
  | .input => { a with input := some value }
  | .config => { a with config := some value }
  | .outputs => { a with outputs := some value }
  | .directory => { a with directory := some value }

/-- The arguments in a list behind others, or the result with which the program ends at
once. What is behind the end is not looked at. -/
def Arguments.parse (a : Arguments) : List RawText → Except Result Arguments
  | [] => .ok a
  | .bytes _ _ :: _ => .error crash
  | .text text :: rest =>
    match Flag.ofText? text with
    | some flag =>
      match rest with
      | [] => .error (misuse ("Missing value for " ++ text))
      | .bytes _ _ :: _ => .error crash
      | .text value :: rest => parse (a.set value flag) rest
    | none =>
      if ["--help", "-h"].contains text then .error { output := help }
      else if ["--version", "-v"].contains text then .error { output := version }
      else .error (misuse ("Unknown argument: " ++ text))

/-- The arguments in a command line, which begins with the name of the program. The name is
passed over, but it must be a text. -/
def Arguments.ofLine (line : List RawText) : Except Result Arguments :=
  match line.head? with
  | some (.bytes _ _) => .error crash
  | _ => parse {} line.tail

/-! ## The program -/

/-- The configuration file that is read when no other is named. -/
def defaultConfig := "apifest.toml"

/-- What the names of the variables begin with. -/
def variableStart := "APIFEST"

/-- Why the program fails. -/
inductive Failure where
  | run (cause : RunError)
  /-- There is no input. -/
  | noInput
deriving DecidableEq, Repr, Inhabited

/-- The lines that the program prints when it fails. -/
def Failure.lines : Failure → List String
  | .run (.endpoints batch) =>
    (programName ++ ": " ++ batch.headline)
      :: batch.errors.map fun e => "  - " ++ e.message
  | .run e => [programName ++ " [" ++ e.kind ++ "]: " ++ e.message]
  | .noInput =>
    [programName ++ ": missing --input <PATH>, use --help for usage information"]

/-- The result of a failure. -/
def Failure.result (f : Failure) (log : Log.Settings) : Result where
  code := 1
  errors := String.join (f.lines.map fun line => line ++ "\n")
  log := log

/-- The configuration of a run. -/
def loadConfig (e : Environment) (a : Arguments) : Session (Except Loader.Stop Config) := do
  match ← Loader.withNearestEnvFile {} e with
  | .error cause => return .error (.reported cause)
  | .ok l =>
    let loaded ←
      match a.config with
      | some path => l.withFile path
      | none => l.withOptionalFile defaultConfig
    match loaded with
    | .error cause => return .error (.reported cause)
    | .ok l =>
      let l := l.withVariables variableStart
      match a.outputs with
      | none => return l.finish e
      | some text =>
        match Output.listOf text with
        | .error cause => return .error (.reported cause)
        | .ok os => return (l.withOutputs os).finish e

/-- Whether the log can be used. -/
def logUsable (s : Log.Settings) : Bool := !s.enabled || Log.areDirectives s.directives

/-- A run with a configuration. -/
def generate (c : Config) (a : Arguments) : Session (Except Failure Unit) := do
  match a.input with
  | none => return .error .noInput
  | some input =>
    Session.reportAll [.readingMethods input]
    match ← MethodSet.ofFile input with
    | .error cause => return .error (.run (.input cause))
    | .ok methods =>
      match Generator.ofConfig c a.directory with
      | .error cause => return .error (.run (.config cause))
      | .ok g =>
        match ← g.run methods with
        | .error cause => return .error (.run cause)
        | .ok _ => return .ok ()

/-- The program. -/
def program (e : Environment) (line : List RawText) : Session Result := do
  match Arguments.ofLine line with
  | .error result => return result
  | .ok a =>
    match ← loadConfig e a with
    | .error .panic => return crash
    | .error (.reported cause) =>
      return (Failure.run (.config cause)).result { enabled := false }
    | .ok c =>
      let log := c.logSettings
      if !logUsable log then return (Failure.run .logging).result { enabled := false }
      else match ← generate c a with
        | .error failure => return failure.result log
        | .ok () => return { log }

/-- The program with arguments that are texts. -/
def run (e : Environment) (arguments : List String) : Session Result :=
  program e (programName :: arguments.map .text)

end RouteMap.CommandLine
