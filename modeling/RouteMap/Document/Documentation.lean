import RouteMap.Document.Mapping

/-!
# The documentation

A `Documentation` is the document that is rendered for readers: a version and, in
their order, the endpoints that are not hidden from it.

Absent fields are left out of the document, and so is an empty table of properties;
lists are there even if they are empty. A reader passes over fields that it does not
know.
-/

namespace RouteMap

/-- A documented endpoint. -/
structure Documentation.Entry where
  path : String
  verb : Option Verb := none
  scope : Option String := none
  group : Option String := none
  summary : Option String := none
  description : Option String := none
  exampleRequest : Option String := none
  exampleResult : Option String := none
  paramsDescription : Option String := none
  resultsDescription : Option String := none
  params : List Endpoint.Parameter := []
  results : List Endpoint.Field := []
  failures : List Endpoint.Failure := []
  order : Int32
  hidden : Bool := false
  /-- The names of the path variables, between spaces. -/
  variableNames : Option String := none
  /-- Their expressions, between spaces. -/
  variableExpressions : Option String := none
  properties : Table String := .empty
deriving DecidableEq, Inhabited

/-- A documentation. -/
structure Documentation where
  version : String
  entries : List Documentation.Entry
deriving DecidableEq, Inhabited

namespace Documentation

/-- The entry of an endpoint. -/
def Entry.ofGuide (g : Endpoint.Guide) : Entry where
  path := g.path
  verb := g.verb
  scope := g.scope
  group := g.group
  summary := g.summary
  description := g.description
  exampleRequest := g.exampleRequest
  exampleResult := g.exampleResult
  paramsDescription := g.paramsDescription
  resultsDescription := g.resultsDescription
  params := g.params
  results := g.results
  failures := g.failures
  order := g.order
  hidden := g.hidden
  variableNames := PathVariable.names g.pathVariables
  variableExpressions := PathVariable.expressions g.pathVariables
  properties := g.properties

/-! ## JSON form -/

/-- The declarations of the fields of a parameter or result. -/
def fieldLayout : List (String × Json.Presence × Json.Shape) :=
  [("name", .required, .text), ("type", .nullable, .text),
   ("description", .required, .text), ("required", .required, .flag)]

/-- The fields of a parameter or result in JSON. -/
def fieldJson (f : Endpoint.Field) : List (String × Json) :=
  [("name", .string f.name)]
    ++ Json.optionalField "type" (f.type.map .string)
    ++ [("description", .string f.description), ("required", .bool f.required)]

/-- A result of its JSON form. -/
def field? (j : Json) : Option Endpoint.Field := do
  return {
    name := ← j.text? "name"
    type := j.text? "type"
    description := ← j.text? "description"
    required := ← j.flag? "required" }

/-- A request parameter in JSON. -/
def parameterJson (p : Endpoint.Parameter) : Json :=
  .object (fieldJson p.toField
    ++ Json.optionalField "exampleValue" (p.exampleValue.map .string))

/-- A request parameter of its JSON form. -/
def parameter? (j : Json) : Option Endpoint.Parameter := do
  return { toField := ← field? j, exampleValue := j.text? "exampleValue" }

/-- An exception in JSON. -/
def failureJson (f : Endpoint.Failure) : Json :=
  .object
    ([("name", .string f.name), ("condition", .string f.condition)]
      ++ Json.optionalField "description" (f.description.map .string)
      ++ Json.optionalField "code" (f.code.map Json.int32))

/-- An exception of its JSON form. -/
def failure? (j : Json) : Option Endpoint.Failure := do
  return {
    name := ← j.text? "name"
    condition := ← j.text? "condition"
    description := j.text? "description"
    code := j.int32? "code" }

/-- The shape of an entry. -/
def Entry.shape : Json.Shape :=
  .record false (.ofList
    [("endpoint", .required, .text),
     ("method", .nullable, Mapping.verbShape),
     ("scope", .nullable, .text),
     ("group", .nullable, .text),
     ("summary", .nullable, .text),
     ("description", .nullable, .text),
     ("exampleRequest", .nullable, .text),
     ("exampleResult", .nullable, .text),
     ("paramsDescription", .nullable, .text),
     ("resultsDescription", .nullable, .text),
     ("requestParams", .defaulted, .list (.record false (.ofList
       (fieldLayout ++ [("exampleValue", .nullable, .text)])))),
     ("resultParams", .defaulted, .list (.record false (.ofList fieldLayout))),
     ("exceptions", .defaulted, .list (.record false (.ofList
       [("name", .required, .text), ("condition", .required, .text),
        ("description", .nullable, .text), ("code", .nullable, Json.int32Shape)]))),
     ("order", .required, Json.int32Shape),
     ("hidden", .defaulted, .flag),
     ("varName", .nullable, .text),
     ("varExpression", .nullable, .text),
     ("customProperties", .defaulted, .table .text)])

/-- The JSON form of an entry. -/
def Entry.toJson (e : Entry) : Json :=
  .object
    ([("endpoint", .string e.path)]
      ++ Json.optionalField "method" (e.verb.map fun v => .string v.name)
      ++ Json.optionalField "scope" (e.scope.map .string)
      ++ Json.optionalField "group" (e.group.map .string)
      ++ Json.optionalField "summary" (e.summary.map .string)
      ++ Json.optionalField "description" (e.description.map .string)
      ++ Json.optionalField "exampleRequest" (e.exampleRequest.map .string)
      ++ Json.optionalField "exampleResult" (e.exampleResult.map .string)
      ++ Json.optionalField "paramsDescription" (e.paramsDescription.map .string)
      ++ Json.optionalField "resultsDescription" (e.resultsDescription.map .string)
      ++ [("requestParams", .array (e.params.map parameterJson)),
          ("resultParams", .array (e.results.map fun f => .object (fieldJson f))),
          ("exceptions", .array (e.failures.map failureJson)),
          ("order", Json.int32 e.order),
          ("hidden", .bool e.hidden)]
      ++ Json.optionalField "varName" (e.variableNames.map .string)
      ++ Json.optionalField "varExpression" (e.variableExpressions.map .string)
      ++ Json.textTable "customProperties" e.properties)

/-- The entry of its JSON form. -/
def Entry.ofJson? (j : Json) : Option Entry := do
  return {
    path := ← j.text? "endpoint"
    verb := (j.text? "method").bind Verb.ofName?
    scope := j.text? "scope"
    group := j.text? "group"
    summary := j.text? "summary"
    description := j.text? "description"
    exampleRequest := j.text? "exampleRequest"
    exampleResult := j.text? "exampleResult"
    paramsDescription := j.text? "paramsDescription"
    resultsDescription := j.text? "resultsDescription"
    params := ← (j.items "requestParams").mapM parameter?
    results := ← (j.items "resultParams").mapM field?
    failures := ← (j.items "exceptions").mapM failure?
    order := ← j.int32? "order"
    hidden := (j.flag? "hidden").getD false
    variableNames := j.text? "varName"
    variableExpressions := j.text? "varExpression"
    properties := ← j.textTable? "customProperties" }

/-- The shape of a documentation. -/
def shape : Json.Shape :=
  .record false (.ofList
    [("version", .required, .text), ("endpoints", .defaulted, .list Entry.shape)])

/-- The JSON form of a documentation. -/
def toJson (d : Documentation) : Json :=
  .object
    [("version", .string d.version), ("endpoints", .array (d.entries.map Entry.toJson))]

/-- The documentation of its JSON form. -/
def ofJson? (j : Json) : Option Documentation := do
  return {
    version := ← j.text? "version"
    entries := ← (j.items "endpoints").mapM Entry.ofJson? }

/-- The text of a documentation. -/
def text (d : Documentation) : String := d.toJson.prettyText

/-- The documentation in a text. -/
def ofText (text : String) : Except Json.Category Documentation := do
  let j ← shape.read text
  (ofJson? j).elim (.error .mismatch) .ok

/-! ## Rendering -/

/-- The documentation of a list of endpoints, in their order and without hidden ones. -/
def ofEndpoints (version : Option String) (es : List Endpoint) :
    Except DocumentError Documentation :=
  match version with
  | none => .error (.missing "version")
  | some version =>
    .ok
      { version
        entries := ((es.map Endpoint.guide).filter fun g => !g.hidden).map Entry.ofGuide }

/-- The text of the documentation of a list of endpoints. -/
def render (version : Option String) (es : List Endpoint) : Except DocumentError String :=
  (ofEndpoints version es).map text

end Documentation

end RouteMap
