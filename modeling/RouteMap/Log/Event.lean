import RouteMap.Json.Basic
import RouteMap.Table

/-!
# Log events

What a run reports while it goes on: tags that were set aside, and how far it got.
An event has a level, a message and named fields.
-/

namespace RouteMap.Log

/-- How much an event matters. -/
inductive Level where
  | warning
  | information
deriving DecidableEq, Repr, Inhabited

/-- The name of a level. -/
def Level.name : Level → String
  | .warning => "WARN"
  | .information => "INFO"

/-- Something that a run reports. -/
inductive Event where
  /-- A backend port that is no port was set aside, and the host with it. -/
  | portIgnored (path value : String)
  /-- The code of an exception is no code. -/
  | codeIgnored (path exception value : String)
  /-- The methods of an input are about to be read. -/
  | readingMethods (path : String)
  /-- All endpoints are assembled. -/
  | assembled (methods endpoints : Nat)
  /-- A document was written, of so many bytes. -/
  | wroteDocument (path : String) (bytes : Nat)
  /-- All documents are written. -/
  | complete (endpoints documents : Nat)
deriving DecidableEq, Repr, Inhabited

namespace Event

/-- The level of an event. -/
def level : Event → Level
  | portIgnored .. | codeIgnored .. => .warning
  | _ => .information

/-- The message of an event. -/
def message : Event → String
  | portIgnored .. =>
    "apifest.backend.port for endpoint is not valid, "
      ++ "default backend host and port will be used"
  | codeIgnored .. => "invalid code given for exception, leaving it unset"
  | readingMethods _ => "reading method descriptors"
  | assembled .. => "assembled endpoints"
  | wroteDocument .. => "wrote document"
  | complete .. => "generation complete"

/-- The fields of an event. -/
def fields : Event → List (String × Json)
  | portIgnored path value => [("external_path", .string path), ("value", .string value)]
  | codeIgnored path exception value =>
    [("external_path", .string path), ("exception", .string exception),
     ("value", .string value)]
  | readingMethods path => [("path", .string path)]
  | assembled methods endpoints =>
    [("methods", .integer methods), ("endpoints", .integer endpoints)]
  | wroteDocument path bytes => [("path", .string path), ("bytes", .integer bytes)]
  | complete endpoints documents =>
    [("endpoints", .integer endpoints), ("documents", .integer documents)]

/-- The JSON form of an event. -/
def toJson (e : Event) : Json :=
  .object
    [("level", .string e.level.name), ("message", .string e.message),
     ("fields", .object e.fields)]

end Event

end RouteMap.Log
