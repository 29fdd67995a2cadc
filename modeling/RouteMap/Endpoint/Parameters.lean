import RouteMap.Endpoint.Basic
import RouteMap.Log.Event
import RouteMap.Tag.Index

/-!
# Parameters, results and exceptions

A tag whose name is a fixed beginning with a bare word behind it introduces a group:
the word names the parameter, field or exception, and the text describes it. Tags
with the same name and a suffix behind a point refine the group.
-/

namespace RouteMap.Endpoint

/-- A name of ASCII letters, digits and underscores. -/
def isBareName (name : String) : Bool :=
  !name.isEmpty && name.toList.all fun c => c.isAlphanum || c = '_'

/-- The groups with a common beginning: the name and the text of each. -/
def groups (tags : Tag.Index) (start : String) : List (String × String) :=
  (tags.below start).filter fun (name, _) => isBareName name

/-- The text of a tag that refines a group. -/
def refinement (tags : Tag.Index) (start name suffix : String) : Option String :=
  tags.get? (start ++ name ++ "." ++ suffix)

/-- The parameter or field of a group. It is required unless it is said to be
optional, and another tag may give it another name. -/
def fieldOf (tags : Tag.Index) (start name description : String) : Field where
  name := ((refinement tags start name "name").map Text.trimmed).getD name
  type := refinement tags start name "type"
  description := description
  required := (refinement tags start name "optional").isNone

/-- The request parameters. -/
def params (tags : Tag.Index) : List Parameter :=
  (groups tags Tag.Key.params).map fun (name, description) =>
    { toField := fieldOf tags Tag.Key.params name description
      exampleValue := refinement tags Tag.Key.params name "exampleValue" }

/-- The result fields. -/
def results (tags : Tag.Index) : List Field :=
  (groups tags Tag.Key.results).map fun (name, description) =>
    fieldOf tags Tag.Key.results name description

/-- The status code in a text. -/
def codeOf (text : String) : Option Int32 := Text.int32? (Text.trimmed text)

/-- The code that a tag gives for an exception. -/
def codeText (tags : Tag.Index) (name : String) : Option String :=
  refinement tags Tag.Key.exceptions name "code"

/-- The exceptions. A code that is no integer is left out. -/
def failures (tags : Tag.Index) : List Failure :=
  (groups tags Tag.Key.exceptions).map fun (name, condition) =>
    { name, condition
      description := refinement tags Tag.Key.exceptions name "description"
      code := (codeText tags name).bind codeOf }

/-- The codes that were left out, reported for the endpoint of a path. -/
def ignoredCodes (tags : Tag.Index) (path : String) : List Log.Event :=
  (groups tags Tag.Key.exceptions).filterMap fun (name, _) =>
    match codeText tags name with
    | some value =>
      if (codeOf value).isNone then some (.codeIgnored path name value) else none
    | none => none

end RouteMap.Endpoint
