import RouteMap.Annotation.Basic
import RouteMap.Tag.Comment

/-!
# Methods

A `Method` is a declared method as it is handed over: its comment, its tags and its
annotations. The input of a run is a list of methods in the order of their
discovery, given as a JSON document.
-/

namespace RouteMap

/-- A declared method. -/
structure Method where
  /-- The qualified name of the declaring type. -/
  owner : Option String := none
  name : String
  /-- The documentation comment. -/
  comment : Option String := none
  /-- Tags beside those in the comment. -/
  tags : List Tag := []
  annotations : List Annotation := []
deriving Inhabited

namespace Method

/-- The name of a method with that of its owner in front, if there is one. -/
def qualifiedName (m : Method) : String :=
  match m.owner with
  | some owner => owner ++ "#" ++ m.name
  | none => m.name

/-- The method with one more tag. -/
def withTag (m : Method) (t : Tag) : Method := { m with tags := m.tags ++ [t] }

/-- The method with one more annotation. -/
def withAnnotation (m : Method) (a : Annotation) : Method :=
  { m with annotations := m.annotations ++ [a] }

/-- The tags of a method: those in its comment, then those beside it. -/
def allTags (m : Method) : List Tag := m.comment.elim [] Tag.ofComment ++ m.tags

/-- The index of the tags of a method. -/
def index (m : Method) : Tag.Index := .ofTags m.allTags

/-! ## JSON form -/

/-- A method is a record; only its name must be given. -/
def shape : Json.Shape :=
  .record true (.ofList
    [("owner", .nullable, .text),
     ("name", .required, .text),
     ("doc", .nullable, .text),
     ("tags", .defaulted, .list Tag.shape),
     ("annotations", .defaulted, .list Annotation.shape)])

/-- The JSON form of a method. -/
def toJson (m : Method) : Json :=
  .object
    (Json.optionalField "owner" (m.owner.map .string)
      ++ [("name", .string m.name)]
      ++ Json.optionalField "doc" (m.comment.map .string)
      ++ Json.unlessEmpty "tags" .array (m.tags.map Tag.toJson)
      ++ Json.unlessEmpty "annotations" .array (m.annotations.map Annotation.toJson))

/-- The method of its JSON form. -/
def ofJson? (j : Json) : Option Method := do
  return {
    owner := j.text? "owner"
    name := ← j.text? "name"
    comment := j.text? "doc"
    tags := ← (j.items "tags").mapM Tag.ofJson?
    annotations := ← (j.items "annotations").mapM Annotation.ofJson? }

/-- The method in a JSON text. -/
def ofText (text : String) : Except Json.Category Method := do
  let j ← shape.read text
  (ofJson? j).elim (.error .mismatch) .ok

end Method

/-- The methods of a run, in the order of their discovery. -/
structure MethodSet where
  methods : List Method := []
deriving Inhabited

namespace MethodSet

/-- How many methods there are. -/
def size (s : MethodSet) : Nat := s.methods.length

/-- Whether there are no methods. -/
def isEmpty (s : MethodSet) : Bool := s.methods.isEmpty

/-- A set of methods is a record of their list. -/
def shape : Json.Shape :=
  .record true (.ofList [("methods", .defaulted, .list Method.shape)])

/-- The JSON form of a set of methods. -/
def toJson (s : MethodSet) : Json := .object [("methods", .array (s.methods.map Method.toJson))]

/-- The set of its JSON form. -/
def ofJson? (j : Json) : Option MethodSet := do
  return { methods := ← (j.items "methods").mapM Method.ofJson? }

/-- The set of methods in a JSON text. -/
def ofText (text : String) : Except Json.Category MethodSet := do
  let j ← shape.read text
  (ofJson? j).elim (.error .mismatch) .ok

end MethodSet

end RouteMap
