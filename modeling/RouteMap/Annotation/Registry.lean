import RouteMap.Json.Shape
import RouteMap.Text.Split

/-!
# Registries of annotations

A `Registry` says which attributes of which annotation types become properties of an
endpoint. It is written as a list `type:attribute,type` or as a table from types to
lists of attributes, in which the empty list stands for all attributes.
-/

namespace RouteMap

/-- The attributes of a type that are wanted. -/
inductive Registry.Selection where
  | all
  | named (names : List String)
deriving DecidableEq, Repr, Inhabited

/-- The wanted attributes by qualified type name. -/
structure Registry where
  types : Table Registry.Selection := .empty
deriving DecidableEq, Inhabited

namespace Registry

/-- The registry without types. -/
def empty : Registry := {}

/-- All attributes of a type are wanted. -/
def withAll (r : Registry) (type : String) : Registry := ⟨r.types.insert type .all⟩

/-- One attribute of a type is wanted, beside those that are already. -/
def withAttribute (r : Registry) (type name : String) : Registry :=
  match r.types.get? type with
  | some .all => r
  | some (.named names) =>
    if names.contains name then r
    else ⟨r.types.insert type (.named (names ++ [name]))⟩
  | none => ⟨r.types.insert type (.named [name])⟩

/-- Some attributes of a type are wanted. -/
def withAttributes (r : Registry) (type : String) (names : List String) : Registry :=
  names.foldl (fun r name => r.withAttribute type name) r

/-- Whether anything of a type is wanted. -/
def contains (r : Registry) (type : String) : Bool := r.types.contains type

/-- Whether an attribute of a type is wanted. -/
def selects (r : Registry) (type name : String) : Bool :=
  match r.types.get? type with
  | some .all => true
  | some (.named names) => names.contains name
  | none => false

/-- How many types there are. -/
def size (r : Registry) : Nat := r.types.size

/-- Whether there are no types. -/
def isEmpty (r : Registry) : Bool := r.types.isEmpty

/-- What either registry wants. -/
def merge (r s : Registry) : Registry :=
  s.types.entries.foldl (fun r (type, selection) =>
    match selection with
    | .all => r.withAll type
    | .named names => r.withAttributes type names) r

/-! ## Compact form -/

/-- The registry with one trimmed entry `type` or `type:attribute` added. -/
def withEntry (r : Registry) (entry : List Char) : Registry :=
  match Text.cut (· == ':') entry with
  | some (type, name) =>
    r.withAttribute (String.ofList (Text.trim type)) (String.ofList (Text.trim name))
  | none => r.withAll (String.ofList entry)

/-- The registry of a list of entries between commas; blank entries say nothing. -/
def ofText (text : String) : Registry :=
  (((Text.pieces ',' text.toList).map Text.trim).filter fun entry => !entry.isEmpty).foldl
    withEntry empty

/-! ## Table form -/

/-- The registry of a table. -/
def ofTable (t : Table (List String)) : Registry :=
  t.entries.foldl (fun r (type, names) =>
    if names.isEmpty then r.withAll type else r.withAttributes type names) empty

/-- The list of a selection. -/
def Selection.toList : Selection → List String
  | .all => []
  | .named names => names

/-- The table of a registry. -/
def toTable (r : Registry) : Table (List String) := r.types.map Selection.toList

/-- A table of lists of texts. -/
def shape : Json.Shape := .table (.list .text)

/-- The JSON form of a registry: its table. -/
def toJson (r : Registry) : Json :=
  .object (r.toTable.map fun names => Json.array (names.map .string)).entries

/-- The registry of its JSON form. -/
def ofJson? (j : Json) : Option Registry := do
  let types ← (← j.asObject?).mapM fun (type, v) => do
    return (type, ← (← v.asArray?).mapM Json.asString?)
  return ofTable (.ofList types)

/-- The registry in a JSON text. -/
def ofJsonText (text : String) : Except Json.Category Registry := do
  let j ← shape.read text
  (ofJson? j).elim (.error .mismatch) .ok

end Registry

end RouteMap
