import RouteMap.Json.Shape
import RouteMap.Text.Split

/-!
# Tags

A *tag* is a name with a text. Methods carry tags in their comments and beside
them; `Tag.Key` lists the names that mean something to the assembly of an endpoint.
-/

namespace RouteMap

/-- A tag. The name may still have its marker. -/
structure Tag where
  name : String
  text : String
deriving DecidableEq, Repr, Inhabited

namespace Tag

/-- The character that opens a tag. -/
def marker : Char := '@'

/-- The name under which a tag is known: without blanks at its ends and without one
leading marker. -/
def canonicalName (name : String) : String :=
  let t := Text.trim name.toList
  String.ofList ((Text.after? [marker] t).getD t)

/-! ## Known names -/

namespace Key

/-- External path; its presence makes a method an endpoint. -/
def external := "apifest.external"

/-- Template of the path at the backend. -/
def internal := "apifest.internal"

/-- Expression of the path variable whose name follows. -/
def expression := "apifest.re."

/-- Scope that a caller needs. -/
def scope := "apifest.scope"

/-- How a caller is authenticated. -/
def authentication := "apifest.auth.type"

/-- Class of the action. -/
def action := "apifest.action"

/-- Class of the filter. -/
def filter := "apifest.filter"

/-- Host of the endpoint's own backend. -/
def backendHost := "apifest.backend.host"

/-- Port number at the endpoint's own backend. -/
def backendPort := "apifest.backend.port"

/-- Hides the endpoint from the routing mapping. -/
def hidden := "apifest.hidden"

/-- Hides the endpoint from the documentation. -/
def docsHidden := "apifest.docs.hidden"

/-- Group in the documentation. -/
def group := "apifest.docs.group"

/-- Summary in one line. -/
def summary := "apifest.docs.summary"

/-- Long description. -/
def description := "apifest.docs.description"

/-- Example of a request. -/
def exampleRequest := "apifest.docs.exampleRequest"

/-- Example of a result. -/
def exampleResult := "apifest.docs.exampleResult"

/-- Text above the request parameters. -/
def paramsDescription := "apifest.docs.paramsDescription"

/-- Text above the result fields. -/
def resultsDescription := "apifest.docs.resultsDescription"

/-- Position in the documentation. -/
def order := "apifest.docs.order"

/-- Request parameter whose name follows. -/
def params := "apifest.docs.params."

/-- Result field whose name follows. -/
def results := "apifest.docs.results."

/-- Exception whose name follows. -/
def exceptions := "apifest.docs.exceptions."

end Key

/-! ## JSON form -/

/-- A tag is a record of a name and a text, which is empty if it is left out. -/
def shape : Json.Shape :=
  .record true (.ofList [("name", .required, .text), ("text", .defaulted, .text)])

/-- The JSON form of a tag. -/
def toJson (t : Tag) : Json := .object [("name", .string t.name), ("text", .string t.text)]

/-- The tag of its JSON form. -/
def ofJson? (j : Json) : Option Tag := do
  return { name := ← j.text? "name", text := (j.text? "text").getD "" }

end Tag

end RouteMap
