import RouteMap.Json.Document

/-!
# Shapes of JSON documents

A `Shape` describes the values that a document may have at a place. `Node.conform`
checks a value against a shape and returns it in its canonical form: records are
objects with their known fields in declared order, without the fields that are
absent or null; a choice is its name; a table keeps the first position and the last
value of a repeated name.

* A record may also be given as an array of its fields in declared order, without
  some of the last ones if these need not be present.
* A strict record refuses an unknown field, a lax one passes over it.
* A choice may also be given as an object whose only field has its name, with null
  as the value.
* At most 127 containers may be open at a time.

The first problem in the order of the text decides the category of the failure.
-/

namespace RouteMap.Json

/-- Whether a field has to be there. -/
inductive Presence where
  | required
  /-- It may be left out. -/
  | defaulted
  /-- It may be left out or null. -/
  | nullable
deriving DecidableEq, Repr

mutual

/-- What a value has to look like. -/
inductive Shape where
  | text
  | flag
  /-- An integer between two bounds. -/
  | integer (low high : Int)
  /-- One of some names. -/
  | choice (names : List String)
  | list (item : Shape)
  /-- An object with arbitrary names. -/
  | table (value : Shape)
  /-- A flag, number or text, or an array of such values. -/
  | plain
  | record (strict : Bool) (layout : Layout)

/-- The fields of a record, in declared order. -/
inductive Layout where
  | nil
  | field (name : String) (presence : Presence) (shape : Shape) (rest : Layout)

end

/-- The declaration of a field. -/
def Layout.find? : Layout → String → Option (Presence × Shape)
  | .nil, _ => none
  | .field name presence shape rest, q =>
    if q = name then some (presence, shape) else rest.find? q

/-- The layout of a list of declarations. -/
def Layout.ofList : List (String × Presence × Shape) → Layout
  | [] => .nil
  | (name, presence, shape) :: fields => .field name presence shape (ofList fields)

/-- The fields of a record in declared order, taken from the fields that were read;
a required field must be among them. -/
def Layout.collect (read : List (String × Json)) : Layout → Except Category (List (String × Json))
  | .nil => .ok []
  | .field name presence _ rest =>
    match read.lookup name, presence with
    | some .null, _ => rest.collect read
    | some v, _ => (rest.collect read).map ((name, v) :: ·)
    | none, .required => .error .mismatch
    | none, _ => rest.collect read

/-- The two notations in which documents come. TOML has no null, so the value that
names a choice is empty there; and an array given for a record may be too long. -/
inductive Dialect where
  | json
  | toml
deriving DecidableEq, Repr

/-! ## Values without a wanted shape -/

mutual

/-- What is wrong with a value that is passed over. -/
def Node.skipped : Node → Option Category
  | .array items => items.skipped
  | .object members => members.skipped
  | .fault f => some f.skipped
  | _ => none

/-- What is wrong with items that are passed over. -/
def Items.skipped : Items → Option Category
  | .stop ending => ending.skipped
  | .item v rest => v.skipped.or rest.skipped

/-- What is wrong with members that are passed over. -/
def Members.skipped : Members → Option Category
  | .stop ending => ending.skipped
  | .member _ v rest => v.skipped.or rest.skipped

end

mutual

/-- What is wrong with a value that is read whatever its shape, inside containers
of which `depth` more may be opened. -/
def Node.problem (depth : Nat) : Node → Option Category
  | .array items =>
    match depth with
    | 0 => some .malformed
    | depth + 1 => items.problem depth
  | .object members =>
    match depth with
    | 0 => some .malformed
    | depth + 1 => members.problem depth
  | .unreadable => some .malformed
  | .fault f => some f.read
  | _ => none

/-- What is wrong with items that are read whatever their shape. -/
def Items.problem (depth : Nat) : Items → Option Category
  | .stop ending => ending.category
  | .item v rest => (v.problem depth).or (rest.problem depth)

/-- What is wrong with members that are read whatever their shape. -/
def Members.problem (depth : Nat) : Members → Option Category
  | .stop ending => ending.category
  | .member none _ _ => some .malformed
  | .member (some _) v rest => (v.problem depth).or (rest.problem depth)

end

mutual

/-- A value without null and objects in it. -/
def Node.plain? : Node → Option Json
  | .bool b => some (.bool b)
  | .number n => some (.number n)
  | .string s => some (.string s)
  | .array items => items.plain?.map .array
  | _ => none

/-- Items without null and objects in them. -/
def Items.plain? : Items → Option (List Json)
  | .stop _ => some []
  | .item v rest => do return (← v.plain?) :: (← rest.plain?)

end

/-! ## Choices -/

/-- How the value of the only field of a choice fails to be as it must. -/
def Node.payload (dialect : Dialect) : Node → Option Category
  | .fault f => some f.read
  | .unreadable => some .malformed
  | .null => none
  | .array (.stop .closed) | .object (.stop .closed) =>
    if dialect = .toml then none else some .mismatch
  | _ => some .mismatch

/-- The name of a choice that is given as an object. -/
def Members.chosen (dialect : Dialect) (names : List String) : Members → Except Category Json
  | .stop .closed => .error .malformed
  | .stop (.broken f) | .stop (.afterComma f) => .error f.read
  | .member none _ _ => .error .malformed
  | .member (some name) v rest =>
    if names.contains name then
      match v.payload dialect with
      | some c => .error c
      | none =>
        match rest with
        | .stop .closed => .ok (.string name)
        | .stop (.broken f) => .error f.read
        | _ => .error .malformed
    else .error .mismatch

/-! ## Conforming -/

/-- A value without parts where a shape is wanted. -/
def Shape.scalar (shape : Shape) (v : Node) : Except Category Json :=
  match shape, v with
  | .choice names, .string s =>
    if names.contains s then .ok (.string s) else .error .mismatch
  | .choice _, .fault f => .error (if f.site = .other then f.read else .malformed)
  | .choice _, _ => .error .malformed
  | _, .fault f => .error f.read
  | _, .unreadable => .error .malformed
  | .text, .string s => .ok (.string s)
  | .flag, .bool b => .ok (.bool b)
  | .integer low high, .number (.integer n) =>
    if low ≤ n ∧ n ≤ high then .ok (.integer n) else .error .mismatch
  | _, _ => .error .mismatch

/-- What is wrong with the end of an array whose items were all wanted. -/
def Items.surplus (dialect : Dialect) : Items → Option Category
  | .stop .closed => none
  | .stop (.broken f) => some f.read
  | _ => if dialect = .toml then none else some .malformed

/-- A value without null and objects, once nothing is wrong in it. -/
def Node.asPlain (depth : Nat) (v : Node) : Except Category Json :=
  match v.problem depth, v.plain? with
  | some c, _ => .error c
  | none, some j => .ok j
  | none, none => .error .mismatch

/-- The null of a field that may be null, also one that is not complete. -/
def Node.nullFor? (presence : Presence) (v : Node) : Option (Except Category Json) :=
  match presence, v with
  | .nullable, .null => some (.ok .null)
  | .nullable, .fault ⟨read, _, .null⟩ => some (.error read)
  | _, _ => none

mutual

/-- The canonical form of a value of a shape, inside containers of which `depth`
more may be opened. -/
def Node.conform (dialect : Dialect) (depth : Nat) (shape : Shape) (v : Node) :
    Except Category Json :=
  match v with
  | .array items =>
    match shape, depth with
    | .plain, depth => Node.asPlain depth (.array items)
    | .list _, 0 | .record _ _, 0 => .error .malformed
    | .list item, depth + 1 => return .array (← items.conform dialect depth item)
    | .record _ layout, depth + 1 =>
      return .object (← layout.collect (← items.fields dialect depth layout))
    | .choice _, _ => .error .malformed
    | _, _ => .error .mismatch
  | .object members =>
    match shape, depth with
    | .plain, depth => Node.asPlain depth (.object members)
    | .table _, 0 | .record _ _, 0 | .choice _, 0 => .error .malformed
    | .table value, depth + 1 => return .object (← members.conform dialect depth value [])
    | .record strict layout, depth + 1 =>
      return .object (← layout.collect (← members.fields dialect depth strict layout []))
    | .choice names, _ + 1 => members.chosen dialect names
    | _, _ => .error .mismatch
  | v =>
    match shape with
    | .plain => Node.asPlain depth v
    | shape => shape.scalar v

/-- The canonical forms of the items of a list. -/
def Items.conform (dialect : Dialect) (depth : Nat) (shape : Shape) :
    Items → Except Category (List Json)
  | .stop ending =>
    match ending.category with
    | some c => .error c
    | none => .ok []
  | .item v rest => do
    let v ← v.conform dialect depth shape
    let vs ← rest.conform dialect depth shape
    return v :: vs

/-- The members of a table after those that were read before. -/
def Members.conform (dialect : Dialect) (depth : Nat) (shape : Shape)
    (members : Members) (read : List (String × Json)) :
    Except Category (List (String × Json)) :=
  match members with
  | .stop ending =>
    match ending.category with
    | some c => .error c
    | none => .ok read
  | .member none _ _ => .error .malformed
  | .member (some name) v rest => do
    let v ← v.conform dialect depth shape
    rest.conform dialect depth shape (Table.assign name v read)

/-- The fields of a record that is given as an array. -/
def Items.fields (dialect : Dialect) (depth : Nat) (layout : Layout) (items : Items) :
    Except Category (List (String × Json)) :=
  match layout, items with
  | .nil, items =>
    match items.surplus dialect with
    | some c => .error c
    | none => .ok []
  | .field _ _ _ _, .stop ending =>
    match ending.category with
    | some c => .error c
    | none => .ok []
  | .field name presence shape layout, .item v rest => do
    let v ← (v.nullFor? presence).getD (v.conform dialect depth shape)
    let fields ← rest.fields dialect depth layout
    return (name, v) :: fields

/-- The fields of a record, after those that were read before. -/
def Members.fields (dialect : Dialect) (depth : Nat) (strict : Bool) (layout : Layout)
    (members : Members) (read : List (String × Json)) :
    Except Category (List (String × Json)) :=
  match members with
  | .stop ending =>
    match ending.category with
    | some c => .error c
    | none => .ok read
  | .member none _ _ => .error .malformed
  | .member (some name) v rest =>
    match layout.find? name with
    | some (presence, shape) =>
      if (read.lookup name).isSome then .error .mismatch
      else do
        let v ← (v.nullFor? presence).getD (v.conform dialect depth shape)
        rest.fields dialect depth strict layout ((name, v) :: read)
    | none =>
      if strict then .error .mismatch
      else match v.skipped with
        | some c => .error c
        | none => rest.fields dialect depth strict layout read

end

/-! ## Reading -/

/-- How many containers may be open at a time. -/
def maxDepth : Nat := 127

/-- The canonical form of a document of a shape. What follows the value is wrong
only if the value itself is not. -/
def Document.conform (d : Document) (shape : Shape) : Except Category Json :=
  match d.root.conform .json maxDepth shape with
  | .error c => .error c
  | .ok v => if d.trailing then .error .malformed else .ok v

/-- The canonical form of a text of a shape. -/
def Shape.read (shape : Shape) (text : String) : Except Category Json :=
  (Document.ofText text).conform shape

end RouteMap.Json
