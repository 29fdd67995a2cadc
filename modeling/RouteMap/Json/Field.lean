import RouteMap.Json.Shape

/-!
# Fields of records

Values that several records have in their fields: ports, 32-bit integers, and tables
of texts. For each there is the shape, the JSON form and the way back.
-/

namespace RouteMap.Json

/-! ## Ports -/

/-- The shape of a port. -/
def portShape : Shape := .integer 0 65535

/-- The JSON form of a port. -/
def port (p : UInt16) : Json := .integer p.toNat

/-- The port in a field. -/
def port? (j : Json) (name : String) : Option UInt16 :=
  (j.integer? name).map fun n => UInt16.ofNat n.toNat

/-! ## Integers of 32 bits -/

/-- The shape of a 32-bit integer. -/
def int32Shape : Shape := .integer (-0x80000000) 0x7FFFFFFF

/-- The JSON form of a 32-bit integer. -/
def int32 (n : Int32) : Json := .integer n.toInt

/-- The 32-bit integer in a field. -/
def int32? (j : Json) (name : String) : Option Int32 := (j.integer? name).map Int32.ofInt

/-! ## Tables of texts -/

/-- A table of texts in a field that is left out when the table is empty. -/
def textTable (name : String) (t : Table String) : List (String × Json) :=
  unlessEmpty name .object (t.map Json.string).entries

/-- The texts by the names of an object. -/
def texts? (fields : List (String × Json)) : Option (List (String × String)) :=
  fields.mapM fun (name, v) => (asString? v).map fun s => (name, s)

/-- The table of texts in a field; the empty one if the field is absent. -/
def textTable? (j : Json) (name : String) : Option (Table String) :=
  (texts? (j.fields name)).map Table.ofList

end RouteMap.Json
