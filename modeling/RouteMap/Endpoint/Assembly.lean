import RouteMap.Annotation.Properties
import RouteMap.Endpoint.Parameters
import RouteMap.Endpoint.PathTemplate
import RouteMap.Method
import RouteMap.Text.UpperCase

/-!
# Assembly of endpoints

A method with a tag for its external path is an endpoint. Its two views are assembled
from its tags and annotations and from the `Settings` of the run. The only tag that
can make the assembly fail is the one for the authentication; a port or a code that
is no number is set aside and reported.

`Settings.assembleAll` assembles all methods even if some fail. It either fails with
every failure or gives the endpoints in the order of the documentation.
-/

namespace RouteMap

/-- What a run assumes about its endpoints. -/
structure Settings where
  /-- The version in front of every external path. -/
  version : String := ""
  backendHost : Option String := none
  backendPort : Option UInt16 := none
  action : Option String := none
  filter : Option String := none
  /-- What stands in front of every path at the backend. -/
  applicationPath : Option String := none
  registry : Registry := .empty
deriving Inhabited

/-- A tag has a text that it cannot have. -/
structure UnsupportedValue where
  tag : String
  value : String
deriving DecidableEq, Repr, Inhabited

/-- The text of the error. -/
def UnsupportedValue.message (e : UnsupportedValue) : String :=
  "value \"" ++ e.value ++ "\" not supported for " ++ e.tag ++ " tag"

/-- The assembly of one endpoint failed. -/
structure EndpointError where
  /-- The external path of the endpoint, as its tag gives it. -/
  endpoint : String
  cause : UnsupportedValue
deriving DecidableEq, Repr, Inhabited

/-- The text of the error. -/
def EndpointError.message (e : EndpointError) : String :=
  "endpoint " ++ e.endpoint ++ ": " ++ e.cause.message

/-- The assembly of some endpoints failed. -/
structure BatchError where
  errors : List EndpointError
deriving DecidableEq, Repr, Inhabited

/-- How many endpoints failed. -/
def BatchError.headline (e : BatchError) : String :=
  String.ofList (Text.decimal e.errors.length) ++ " endpoint(s) failed to assemble"

/-- The text of the error. -/
def BatchError.message (e : BatchError) : String :=
  e.headline ++ ": " ++ Text.join "; " (e.errors.map EndpointError.message)

namespace Settings

/-! ## Paths -/

/-- What stands in front of every path at the backend: nothing for a blank text,
`null` and `none`. -/
def applicationStart (s : Settings) : String :=
  match s.applicationPath.map Text.trimmed with
  | some path =>
    if path.isEmpty || ["null", "none"].contains (Text.lowerAscii path) then "" else path
  | none => ""

/-- The external path of an endpoint. -/
def externalPath (s : Settings) (external : String) : String :=
  "/" ++ s.version ++ Text.trimmed external

/-! ## Backend and hooks -/

/-- The backend of an endpoint: its own if the tags give host and port, else that of
the run. -/
def backend (s : Settings) (tags : Tag.Index) : Option String × Option UInt16 :=
  match tags.get? Tag.Key.backendHost, tags.get? Tag.Key.backendPort with
  | some host, some port =>
    match Text.port? (Text.trimmed port) with
    | some port => (some host, some port)
    | none => (s.backendHost, s.backendPort)
  | _, _ => (s.backendHost, s.backendPort)

/-- The port that was set aside, reported for the endpoint of a path. -/
def ignoredPort (tags : Tag.Index) (path : String) : List Log.Event :=
  match tags.get? Tag.Key.backendHost, tags.get? Tag.Key.backendPort with
  | some _, some port =>
    if (Text.port? (Text.trimmed port)).isNone then [.portIgnored path port] else []
  | _, _ => []

/-- The action of an endpoint: that of its tag, where `None` stands for no action,
else that of the run. -/
def actionOf (s : Settings) (tags : Tag.Index) : Option String :=
  match tags.get? Tag.Key.action with
  | some action => if Text.trimmed action = "None" then none else some action
  | none => s.action

/-- The filter of an endpoint: that of its tag, else that of the run. -/
def filterOf (s : Settings) (tags : Tag.Index) : Option String :=
  (tags.get? Tag.Key.filter).or s.filter

/-- How the callers of an endpoint are authenticated. -/
def authentication (tags : Tag.Index) : Except UnsupportedValue (Option Authentication) :=
  match tags.get? Tag.Key.authentication with
  | none => .ok none
  | some value =>
    match Authentication.ofName? value with
    | some a => .ok (some a)
    | none => .error ⟨Tag.Key.authentication, value⟩

/-! ## The two views -/

/-- The summary that a description gives: what stands before its first full stop,
question mark or exclamation mark, unless that is empty. -/
def summaryOf (description : String) : Option String :=
  let start := description.toList.takeWhile fun c => !(c = '.' || c = '?' || c = '!')
  if start.isEmpty then none else some (String.ofList start)

/-- The path variables of an endpoint. -/
def pathVariables (tags : Tag.Index) : List PathVariable :=
  (tags.get? Tag.Key.internal).elim [] fun template => PathTemplate.pathVariables template tags

/-- The view of the gateway. -/
def routing (s : Settings) (external : String) (authentication : Option Authentication)
    (tags : Tag.Index) (annotations : List Annotation) : Endpoint.Routing :=
  let properties := Annotation.properties s.registry annotations
  let (backendHost, backendPort) := s.backend tags
  { path := s.externalPath external
    target := (tags.get? Tag.Key.internal).map (s.applicationStart ++ ·)
    verb := properties.verb
    authentication
    scope := tags.get? Tag.Key.scope
    backendHost
    backendPort
    pathVariables := pathVariables tags
    action := s.actionOf tags
    filter := s.filterOf tags
    properties := properties.custom
    hidden := tags.contains Tag.Key.hidden }

/-- The view of the documentation. -/
def guide (s : Settings) (external : String) (tags : Tag.Index)
    (annotations : List Annotation) : Endpoint.Guide :=
  let properties := Annotation.properties s.registry annotations
  let description := tags.get? Tag.Key.description
  { path := s.externalPath external
    verb := properties.verb
    scope := tags.get? Tag.Key.scope
    group := tags.get? Tag.Key.group
    summary := (tags.get? Tag.Key.summary).or (description.bind summaryOf)
    description
    exampleRequest := tags.get? Tag.Key.exampleRequest
    exampleResult := tags.get? Tag.Key.exampleResult
    paramsDescription := tags.get? Tag.Key.paramsDescription
    resultsDescription := tags.get? Tag.Key.resultsDescription
    params := Endpoint.params tags
    results := Endpoint.results tags
    failures := Endpoint.failures tags
    order := Endpoint.orderOf (tags.get? Tag.Key.order)
    hidden := tags.contains Tag.Key.docsHidden
    pathVariables := pathVariables tags
    properties := properties.custom }

/-! ## One endpoint -/

/-- The endpoint of an index of tags and a list of annotations, if it is one. -/
def assembleTags (s : Settings) (tags : Tag.Index) (annotations : List Annotation) :
    Except UnsupportedValue (Option Endpoint) :=
  match tags.get? Tag.Key.external with
  | none => .ok none
  | some external =>
    match authentication tags with
    | .error e => .error e
    | .ok authentication =>
      .ok (some
        { routing := s.routing external authentication tags annotations
          guide := s.guide external tags annotations })

/-- What the assembly reports about an endpoint that it assembled. -/
def warnings (s : Settings) (tags : Tag.Index) : List Log.Event :=
  match tags.get? Tag.Key.external, authentication tags with
  | some external, .ok _ =>
    let path := s.externalPath external
    ignoredPort tags path ++ Endpoint.ignoredCodes tags path
  | _, _ => []

/-- The endpoint of a method, if it is one. -/
def assemble (s : Settings) (m : Method) : Except UnsupportedValue (Option Endpoint) :=
  s.assembleTags m.index m.annotations

/-! ## All endpoints -/

/-- How a method is called in an error. -/
def label (m : Method) : String := (m.index.get? Tag.Key.external).getD m.qualifiedName

/-- The endpoints of the methods, in the order of the methods. -/
def endpoints (s : Settings) (ms : List Method) : List Endpoint :=
  ms.filterMap fun m => (s.assemble m).toOption.join

/-- The failures of the methods, in the order of the methods. -/
def failures (s : Settings) (ms : List Method) : List EndpointError :=
  ms.filterMap fun m =>
    match s.assemble m with
    | .error cause => some ⟨label m, cause⟩
    | .ok _ => none

/-- The endpoints of the methods in the order of the documentation, or all failures. -/
def assembleAll (s : Settings) (ms : List Method) : Except BatchError (List Endpoint) :=
  match s.failures ms with
  | [] => .ok (Endpoint.sorted (s.endpoints ms))
  | errors => .error ⟨errors⟩

/-- What the assembly of all methods reports. -/
def allWarnings (s : Settings) (ms : List Method) : List Log.Event :=
  ms.flatMap fun m => s.warnings m.index

end Settings

end RouteMap
