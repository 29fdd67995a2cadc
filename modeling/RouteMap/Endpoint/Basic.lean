import RouteMap.Endpoint.Verb
import RouteMap.Table
import RouteMap.Text.Numeral

/-!
# Endpoints

An `Endpoint` is one externally reachable route in two views: its `Routing` for the
gateway that forwards requests, and its `Guide` for the reader of the documentation.
-/

namespace RouteMap

/-- A path variable and the expression that its values match. -/
structure PathVariable where
  name : String
  expression : String
deriving DecidableEq, Repr, Inhabited

namespace PathVariable

/-- The names of path variables between spaces, if there are any. -/
def names (vs : List PathVariable) : Option String :=
  if vs.isEmpty then none else some (Text.join " " (vs.map name))

/-- The expressions of path variables between spaces, if there are any. -/
def expressions (vs : List PathVariable) : Option String :=
  if vs.isEmpty then none else some (Text.join " " (vs.map expression))

end PathVariable

namespace Endpoint

/-- What the gateway knows of an endpoint. -/
structure Routing where
  /-- The external path, with the version in front. -/
  path : String
  /-- The path at the backend. -/
  target : Option String
  verb : Option Verb
  authentication : Option Authentication
  scope : Option String
  backendHost : Option String
  backendPort : Option UInt16
  pathVariables : List PathVariable
  action : Option String
  filter : Option String
  properties : Table String
  /-- Whether the endpoint is left out of the mapping. -/
  hidden : Bool
deriving DecidableEq, Inhabited

/-- A request parameter or a result field. -/
structure Field where
  name : String
  type : Option String
  description : String
  required : Bool
deriving DecidableEq, Repr, Inhabited

/-- A request parameter. -/
structure Parameter extends Field where
  exampleValue : Option String
deriving DecidableEq, Repr, Inhabited

/-- An error that a caller may meet. -/
structure Failure where
  name : String
  /-- When it is met. -/
  condition : String
  description : Option String
  /-- The HTTP status code. -/
  code : Option Int32
deriving DecidableEq, Inhabited

/-- The position of an endpoint without a position: behind all others. -/
def lastOrder : Int32 := Int32.ofInt 0x7FFFFFFF

/-- What the reader of the documentation learns of an endpoint. -/
structure Guide where
  /-- The external path, with the version in front. -/
  path : String
  verb : Option Verb
  scope : Option String
  group : Option String
  summary : Option String
  description : Option String
  exampleRequest : Option String
  exampleResult : Option String
  paramsDescription : Option String
  resultsDescription : Option String
  params : List Parameter
  results : List Field
  failures : List Failure
  order : Int32
  /-- Whether the endpoint is left out of the documentation. -/
  hidden : Bool
  pathVariables : List PathVariable
  properties : Table String
deriving DecidableEq, Inhabited

end Endpoint

/-- An endpoint in its two views. -/
structure Endpoint where
  routing : Endpoint.Routing
  guide : Endpoint.Guide
deriving DecidableEq, Inhabited

namespace Endpoint

/-- The position of an endpoint in the documents. -/
def order (e : Endpoint) : Int32 := e.guide.order

/-- The external path of an endpoint. -/
def path (e : Endpoint) : String := e.routing.path

/-- The position in a text: an integer, else the last position. -/
def orderOf (text : Option String) : Int32 :=
  (text.bind fun t => Text.int32? (Text.trimmed t)).getD lastOrder

/-- Endpoints by ascending position; those of one position keep their order. -/
def sorted (es : List Endpoint) : List Endpoint :=
  es.mergeSort fun a b => decide (a.order ≤ b.order)

end Endpoint

end RouteMap
