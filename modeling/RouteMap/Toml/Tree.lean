import RouteMap.Json.Document
import RouteMap.Table

/-!
# TOML trees

A TOML document is a list of statements: headers, and keys with values. `Tree.ofStatements`
builds the table that they describe. A key is assigned once, and a table is opened
once: by a header, by dotted keys, or as a value. What a header or a dotted key only
passes through is created on the way and may be opened by a header later.

Dates and times are values, but which ones they are is not kept: no configuration value
is one, so they can only stand where nothing is wanted.
-/

namespace RouteMap.Toml

/-- A value. -/
inductive Value where
  | string (s : String)
  | integer (n : Int)
  | float (x : Float)
  | boolean (b : Bool)
  /-- A date or a time. -/
  | moment
  | array (items : List Value)
  | table (fields : List (String × Value))
deriving Inhabited

/-- A statement of a document, or a key with a value in an inline table. -/
inductive Statement where
  | assign (key : List String) (value : Value)
  | header (key : List String)
  | arrayHeader (key : List String)
deriving Inhabited

mutual

/-- What a name stands for while the document is built. -/
inductive Item where
  | value (v : Value)
  | table (t : Tree)
  /-- The tables of an array, the last one first. -/
  | tables (last : Tree) (earlier : List Tree)

/-- A table while the document is built. -/
inductive Tree where
  /-- `passed` tells whether it was only passed through, and `dotted` whether that was
  by a dotted key. -/
  | mk (passed dotted : Bool) (items : List (String × Item))

end

namespace Tree

/-- A table without items that a header opens. -/
def empty : Tree := .mk false false []

instance : Inhabited Tree := ⟨empty⟩

/-- Whether a table was only passed through. -/
def passed : Tree → Bool
  | .mk p _ _ => p

/-- Whether a table was created by a dotted key. -/
def dotted : Tree → Bool
  | .mk _ d _ => d

/-- The items of a table. -/
def items : Tree → List (String × Item)
  | .mk _ _ items => items

/-- What a name stands for in a table. -/
def get? (t : Tree) (name : String) : Option Item := t.items.lookup name

/-- A table with a name given a new meaning. -/
def set (t : Tree) (name : String) (item : Item) : Tree :=
  .mk t.passed t.dotted (Table.assign name item t.items)

/-- Changes the table that a path leads to; tables that do not exist yet are passed
through. A dotted key does not lead into a table that was opened. -/
def within (byDots : Bool) (change : Tree → Option Tree) : List String → Tree → Option Tree
  | [], t => change t
  | name :: path, t => do
    match t.get? name with
    | none =>
      let inner ← within byDots change path (.mk true byDots [])
      return t.set name (.table inner)
    | some (.table inner) =>
      if byDots ∧ !inner.passed then none
      else return t.set name (.table (← within byDots change path inner))
    | some (.tables last earlier) =>
      return t.set name (.tables (← within byDots change path last) earlier)
    | some (.value _) => none

/-- Assigns a value to a name that has none. A table that dotted keys created takes
names by dotted keys only, and no other table does. -/
def assignNew (byDots : Bool) (name : String) (v : Value) (t : Tree) : Option Tree :=
  if t.dotted = byDots ∧ (t.get? name).isNone then some (t.set name (.value v)) else none

/-- Assigns a value to a key in a table. -/
def assign (key : List String) (v : Value) (t : Tree) : Option Tree :=
  match key.getLast? with
  | none => none
  | some name =>
    let path := key.dropLast
    t.within true (assignNew (!path.isEmpty) name v) path

mutual

/-- The value of an item. -/
def toValue : Item → Value
  | .value v => v
  | .table t => .table t.fields
  | .tables last earlier => .array ((last.fields :: fieldsAll earlier).reverse.map .table)

/-- The values of the names of a table. -/
def fields : Tree → List (String × Value)
  | .mk _ _ items => fieldsOf items

/-- The values of names. -/
def fieldsOf : List (String × Item) → List (String × Value)
  | [] => []
  | (name, item) :: rest => (name, toValue item) :: fieldsOf rest

/-- The fields of tables. -/
def fieldsAll : List Tree → List (List (String × Value))
  | [] => []
  | t :: ts => t.fields :: fieldsAll ts

end

/-! ## Statements -/

/-- Opens a table by a header: one that does not exist yet or was only passed through. -/
def openTable (name : String) (t : Tree) : Option Tree :=
  match t.get? name with
  | none => some (t.set name (.table .empty))
  | some (.table inner) =>
    if inner.passed ∧ !inner.dotted then
      some (t.set name (.table (.mk false false inner.items)))
    else none
  | some _ => none

/-- Opens one more table of an array by a header. -/
def openNext (name : String) (t : Tree) : Option Tree :=
  match t.get? name with
  | none => some (t.set name (.tables .empty []))
  | some (.tables last earlier) => some (t.set name (.tables .empty (last :: earlier)))
  | some _ => none

/-- A document so far: its tree, and the path to the table that is open. -/
structure State where
  root : Tree := .empty
  path : List String := []

/-- The document with one more statement. -/
def State.add (s : State) : Statement → Option State
  | .assign key v => do
    return { s with root := ← s.root.within false (Tree.assign key v) s.path }
  | .header key => do
    let name ← key.getLast?
    return { root := ← s.root.within false (openTable name) key.dropLast, path := key }
  | .arrayHeader key => do
    let name ← key.getLast?
    return { root := ← s.root.within false (openNext name) key.dropLast, path := key }

/-- The fields of a document. -/
def ofStatements (ss : List Statement) : Option (List (String × Value)) :=
  (ss.foldlM State.add {}).map fun s => s.root.fields

/-- The fields of an inline table. -/
def ofAssignments (entries : List (List String × Value)) : Option (List (String × Value)) :=
  (entries.foldlM (fun t (key, v) => assign key v t) empty).map fields

end Tree

/-! ## Values as nodes -/

mutual

/-- A value as a node of a document that is checked against a shape. -/
def Value.toNode : Value → Json.Node
  | .string s => .string s
  | .integer n => .number (.integer n)
  | .float x => .number (.float x)
  | .moment => .unreadable
  | .boolean b => .bool b
  | .array items => .array (Value.toItems items)
  | .table fields => .object (Value.toMembers fields)

/-- The items of an array. -/
def Value.toItems : List Value → Json.Items
  | [] => .stop .closed
  | v :: vs => .item v.toNode (Value.toItems vs)

/-- The members of a table. -/
def Value.toMembers : List (String × Value) → Json.Members
  | [] => .stop .closed
  | (name, v) :: fields => .member (some name) v.toNode (Value.toMembers fields)

end

end RouteMap.Toml
