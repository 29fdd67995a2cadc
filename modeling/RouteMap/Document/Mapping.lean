import RouteMap.Document.Error
import RouteMap.Endpoint.Basic
import RouteMap.Json.Field
import RouteMap.Json.Printer

/-!
# The routing mapping

A `Mapping` is the document that the gateway reads: a version, the backend of all
endpoints that have none of their own, and the endpoints that are not hidden from it.

Absent fields are left out of the document, and so is an empty table of properties.
A reader passes over fields that it does not know.
-/

namespace RouteMap

/-- A route of the mapping. -/
structure Mapping.Route where
  path : String
  target : Option String := none
  verb : Option Verb := none
  authentication : Option Authentication := none
  scope : Option String := none
  /-- The names of the path variables, between spaces. -/
  variableNames : Option String := none
  /-- Their expressions, between spaces. -/
  variableExpressions : Option String := none
  backendHost : Option String := none
  backendPort : Option UInt16 := none
  action : Option String := none
  filter : Option String := none
  properties : Table String := .empty
  hidden : Bool := false
deriving DecidableEq, Inhabited

/-- A routing mapping. -/
structure Mapping where
  version : String
  host : String
  port : UInt16
  routes : List Mapping.Route
deriving DecidableEq, Inhabited

namespace Mapping

/-- The route of an endpoint. -/
def Route.ofRouting (r : Endpoint.Routing) : Route where
  path := r.path
  target := r.target
  verb := r.verb
  authentication := r.authentication
  scope := r.scope
  variableNames := PathVariable.names r.pathVariables
  variableExpressions := PathVariable.expressions r.pathVariables
  backendHost := r.backendHost
  backendPort := r.backendPort
  action := r.action
  filter := r.filter
  properties := r.properties
  hidden := r.hidden

/-! ## JSON form -/

/-- A class that is named in a record of its own. -/
def className? (j : Json) (name className : String) : Option String :=
  (j.field? name).bind fun r => r.text? className

/-- The shape of a verb. -/
def verbShape : Json.Shape := .choice (Verb.all.map Verb.name)

/-- The shape of an authentication. -/
def authenticationShape : Json.Shape := .choice (Authentication.all.map Authentication.name)

/-- The shape of a route. -/
def Route.shape : Json.Shape :=
  .record false (.ofList
    [("externalEndpoint", .required, .text),
     ("internalEndpoint", .nullable, .text),
     ("method", .nullable, verbShape),
     ("authType", .nullable, authenticationShape),
     ("scope", .nullable, .text),
     ("varName", .nullable, .text),
     ("varExpression", .nullable, .text),
     ("backendHost", .nullable, .text),
     ("backendPort", .nullable, Json.portShape),
     ("action", .nullable, .record false (.ofList [("actionClassName", .required, .text)])),
     ("filters", .nullable, .record false (.ofList [("filterClassName", .required, .text)])),
     ("customProperties", .defaulted, .table .text),
     ("hidden", .defaulted, .flag)])

/-- The JSON form of a route. -/
def Route.toJson (r : Route) : Json :=
  .object
    ([("externalEndpoint", .string r.path)]
      ++ Json.optionalField "internalEndpoint" (r.target.map .string)
      ++ Json.optionalField "method" (r.verb.map fun v => .string v.name)
      ++ Json.optionalField "authType" (r.authentication.map fun a => .string a.name)
      ++ Json.optionalField "scope" (r.scope.map .string)
      ++ Json.optionalField "varName" (r.variableNames.map .string)
      ++ Json.optionalField "varExpression" (r.variableExpressions.map .string)
      ++ Json.optionalField "backendHost" (r.backendHost.map .string)
      ++ Json.optionalField "backendPort" (r.backendPort.map Json.port)
      ++ Json.optionalField "action"
        (r.action.map fun a => .object [("actionClassName", .string a)])
      ++ Json.optionalField "filters"
        (r.filter.map fun f => .object [("filterClassName", .string f)])
      ++ Json.textTable "customProperties" r.properties
      ++ [("hidden", .bool r.hidden)])

/-- The route of its JSON form. -/
def Route.ofJson? (j : Json) : Option Route := do
  return {
    path := ← j.text? "externalEndpoint"
    target := j.text? "internalEndpoint"
    verb := (j.text? "method").bind Verb.ofName?
    authentication := (j.text? "authType").bind Authentication.ofName?
    scope := j.text? "scope"
    variableNames := j.text? "varName"
    variableExpressions := j.text? "varExpression"
    backendHost := j.text? "backendHost"
    backendPort := j.port? "backendPort"
    action := className? j "action" "actionClassName"
    filter := className? j "filters" "filterClassName"
    properties := ← j.textTable? "customProperties"
    hidden := (j.flag? "hidden").getD false }

/-- The shape of a mapping. -/
def shape : Json.Shape :=
  .record false (.ofList
    [("version", .required, .text),
     ("backend", .required, .record false (.ofList
       [("host", .required, .text), ("port", .required, Json.portShape)])),
     ("endpoints", .defaulted, .list Route.shape)])

/-- The JSON form of a mapping. -/
def toJson (m : Mapping) : Json :=
  .object
    [("version", .string m.version),
     ("backend", .object [("host", .string m.host), ("port", Json.port m.port)]),
     ("endpoints", .array (m.routes.map Route.toJson))]

/-- The mapping of its JSON form. -/
def ofJson? (j : Json) : Option Mapping := do
  let backend ← j.field? "backend"
  return {
    version := ← j.text? "version"
    host := ← backend.text? "host"
    port := ← backend.port? "port"
    routes := ← (j.items "endpoints").mapM Route.ofJson? }

/-- The text of a mapping. -/
def text (m : Mapping) : String := m.toJson.prettyText

/-- The mapping in a text. -/
def ofText (text : String) : Except Json.Category Mapping := do
  let j ← shape.read text
  (ofJson? j).elim (.error .mismatch) .ok

/-! ## Rendering -/

/-- What a mapping needs beside its endpoints. -/
structure Heading where
  version : Option String := none
  host : Option String := none
  port : Option UInt16 := none
deriving DecidableEq, Inhabited

/-- The mapping of a list of endpoints, in their order and without hidden ones. -/
def ofEndpoints (h : Heading) (es : List Endpoint) : Except DocumentError Mapping :=
  match h.version, h.host, h.port with
  | none, _, _ => .error (.missing "version")
  | some _, none, _ => .error (.missing "backend.host")
  | some _, some _, none => .error (.missing "backend.port")
  | some version, some host, some port =>
    .ok
      { version, host, port
        routes := ((es.map Endpoint.routing).filter fun r => !r.hidden).map Route.ofRouting }

/-- The text of the mapping of a list of endpoints. -/
def render (h : Heading) (es : List Endpoint) : Except DocumentError String :=
  (ofEndpoints h es).map text

end Mapping

end RouteMap
