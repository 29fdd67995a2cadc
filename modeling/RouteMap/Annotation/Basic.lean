import RouteMap.Decimal.Style
import RouteMap.Json.Shape
import RouteMap.Text.Numeral

/-!
# Annotations

An `Annotation` has a qualified type name and attributes with values. A value is
flattened by joining its leaves with commas, whatever the nesting of its arrays.
-/

namespace RouteMap

/-- The value of an attribute. -/
inductive Annotation.Value where
  | flag (b : Bool)
  | integer (n : Int64)
  | float (x : Float)
  | text (s : String)
  | array (items : List Annotation.Value)
deriving Inhabited

/-- An annotation. -/
structure Annotation where
  /-- The qualified name of its type. -/
  type : String
  attributes : Table Annotation.Value := .empty
deriving Inhabited

namespace Annotation

namespace Value

mutual

/-- The text of a value: its leaves, joined with commas. -/
def flatten : Value → String
  | .flag b => if b then "true" else "false"
  | .integer n => String.ofList (Text.integer n.toInt)
  | .float x => String.ofList (Decimal.plainStyle.write x)
  | .text s => s
  | .array items => Text.join "," (flattenAll items)

/-- The texts of values. -/
def flattenAll : List Value → List String
  | [] => []
  | v :: vs => v.flatten :: flattenAll vs

end

/-! ## JSON form -/

mutual

/-- The JSON form of a value. -/
def toJson : Value → Json
  | .flag b => .bool b
  | .integer n => .integer n.toInt
  | .float x => .number (.float x)
  | .text s => .string s
  | .array items => .array (toJsonAll items)

/-- The JSON forms of values. -/
def toJsonAll : List Value → List Json
  | [] => []
  | v :: vs => v.toJson :: toJsonAll vs

end

mutual

/-- The value of its JSON form. An integer beyond 63 bits and a sign is a float. -/
def ofJson? : Json → Option Value
  | .bool b => some (.flag b)
  | .number (.integer n) =>
    if n < 0x8000000000000000 then some (.integer (Int64.ofInt n))
    else some (.float (UInt64.ofNat n.toNat).toFloat)
  | .number (.float x) => some (.float x)
  | .string s => some (.text s)
  | .array items => (ofJsonAll? items).map .array
  | .null | .object _ => none

/-- The values of their JSON forms. -/
def ofJsonAll? : List Json → Option (List Value)
  | [] => some []
  | v :: vs => do return (← ofJson? v) :: (← ofJsonAll? vs)

end

/-- The value in a JSON text. -/
def ofText (text : String) : Except Json.Category Value := do
  let j ← Json.Shape.plain.read text
  (ofJson? j).elim (.error .mismatch) .ok

end Value

/-- What follows the last point of the type name. -/
def simpleName (a : Annotation) : String :=
  match Text.cutLast '.' a.type.toList with
  | some (_, name) => String.ofList name
  | none => a.type

/-- The annotation with one more attribute. -/
def withAttribute (a : Annotation) (name : String) (value : Value) : Annotation :=
  { a with attributes := a.attributes.insert name value }

/-! ## JSON form -/

/-- An annotation is a record of its type and a table of attributes. -/
def shape : Json.Shape :=
  .record true
    (.ofList [("type", .required, .text), ("attributes", .defaulted, .table .plain)])

/-- The JSON form of an annotation. -/
def toJson (a : Annotation) : Json :=
  .object (("type", .string a.type) ::
    Json.unlessEmpty "attributes" .object (a.attributes.map Value.toJson).entries)

/-- The annotation of its JSON form. -/
def ofJson? (j : Json) : Option Annotation := do
  let type ← j.text? "type"
  let attributes ← (j.fields "attributes").mapM fun (name, v) => do
    return (name, ← Value.ofJson? v)
  return { type, attributes := .ofList attributes }

end Annotation

end RouteMap
