import RouteMap.Table

/-!
# JSON values

A `Json` is a value of the data format: objects keep their fields in order and may
repeat a name. A number is an integer if it is written without fraction and
exponent and fits 64 bits, else a double.
-/

namespace RouteMap

/-- A JSON number. -/
inductive Json.Number where
  | integer (n : Int)
  | float (x : Float)
deriving Inhabited

/-- A JSON value. -/
inductive Json where
  | null
  | bool (b : Bool)
  | number (n : Json.Number)
  | string (s : String)
  | array (items : List Json)
  | object (fields : List (String × Json))
deriving Inhabited

namespace Json

/-- An integer as a value. -/
def integer (n : Int) : Json := .number (.integer n)

/-- The value of a field of an object. -/
def field? : Json → String → Option Json
  | .object fields, name => fields.lookup name
  | _, _ => none

/-- A field that is left out when the value is absent. -/
def optionalField (name : String) (value : Option Json) : List (String × Json) :=
  match value with
  | some v => [(name, v)]
  | none => []

/-- A container field that is left out when the container is empty. -/
def unlessEmpty {α : Type} (name : String) (wrap : List α → Json) (content : List α) :
    List (String × Json) :=
  if content.isEmpty then [] else [(name, wrap content)]

/-- The value, or `null` when it is absent. -/
def nullable : Option Json → Json
  | some v => v
  | none => .null

/-- The text of a string value. -/
def asString? : Json → Option String
  | .string s => some s
  | _ => none

/-- The truth value of a Boolean. -/
def asBool? : Json → Option Bool
  | .bool b => some b
  | _ => none

/-- The integer of a number that is one. -/
def asInteger? : Json → Option Int
  | .number (.integer n) => some n
  | _ => none

/-- The items of an array. -/
def asArray? : Json → Option (List Json)
  | .array items => some items
  | _ => none

/-- The fields of an object. -/
def asObject? : Json → Option (List (String × Json))
  | .object fields => some fields
  | _ => none

/-- The text of a field that has one. -/
def text? (j : Json) (name : String) : Option String := (j.field? name).bind asString?

/-- The truth value of a field that has one. -/
def flag? (j : Json) (name : String) : Option Bool := (j.field? name).bind asBool?

/-- The integer of a field that has one. -/
def integer? (j : Json) (name : String) : Option Int := (j.field? name).bind asInteger?

/-- The items of a field; none if the field is absent. -/
def items (j : Json) (name : String) : List Json :=
  ((j.field? name).bind asArray?).getD []

/-- The fields of an object field; none if it is absent. -/
def fields (j : Json) (name : String) : List (String × Json) :=
  ((j.field? name).bind asObject?).getD []

end Json

end RouteMap
