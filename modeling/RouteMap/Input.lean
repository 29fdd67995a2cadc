import RouteMap.Method
import RouteMap.Session

/-!
# Input files

The methods of a run are read from a JSON file.
-/

namespace RouteMap

/-- Why there are no methods. -/
inductive InputError where
  | unreadable (path : String) (cause : FileError)
  | invalid (category : Json.Category)
deriving DecidableEq, Repr, Inhabited

/-- The text of the error. -/
def InputError.message : InputError → String
  | unreadable path cause =>
    "failed to read method descriptors from " ++ path ++ ": " ++ cause.message
  | invalid _ => "invalid method descriptors"

/-- The methods in a text. -/
def MethodSet.parse (text : String) : Except InputError MethodSet :=
  (MethodSet.ofText text).mapError .invalid

/-- The methods in a file. -/
def MethodSet.ofFile (path : String) : Session (Except InputError MethodSet) := do
  match ← Session.textOf path with
  | .error cause => return .error (.unreadable path cause)
  | .ok text => return MethodSet.parse text

end RouteMap
