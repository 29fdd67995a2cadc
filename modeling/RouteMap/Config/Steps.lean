import RouteMap.Config.Loader

/-!
# Loading in steps

A program sets up a loader in steps, any number of them and in any order, and then asks it
for the configuration.
-/

namespace RouteMap.Loader

/-- A step in setting up a loader. -/
inductive Step where
  /-- Goes back to the defaults. -/
  | defaults
  | text (text format : String)
  | file (path : String)
  | optionalFile (path : String)
  | envFile (path : String)
  | nearestEnvFile
  /-- Lets variables count whose names begin with a text. -/
  | countFrom (start : String)
  | outputs (os : List Output)
deriving DecidableEq, Repr

/-- The loader after one more step. -/
def take (e : Environment) (l : Loader) : Step → Session (Except ConfigError Loader)
  | .defaults => return .ok l.withDefaults
  | .text text format => return l.withText text format
  | .file path => l.withFile path
  | .optionalFile path => l.withOptionalFile path
  | .envFile path => l.withEnvFile e path
  | .nearestEnvFile => l.withNearestEnvFile e
  | .countFrom start => return .ok (l.withVariables start)
  | .outputs os => return .ok (l.withOutputs os)

/-- The loader after steps, of which the first that fails is the last one. -/
def takeAll (e : Environment) (l : Loader) : List Step → Session (Except ConfigError Loader)
  | [] => return .ok l
  | step :: steps => do
    match ← l.take e step with
    | .error cause => return .error cause
    | .ok l => l.takeAll e steps

end RouteMap.Loader
