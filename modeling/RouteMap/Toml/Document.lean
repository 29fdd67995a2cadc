import RouteMap.Toml.Moment
import RouteMap.Toml.Number
import RouteMap.Toml.Tree

/-!
# TOML documents

`Toml.fieldsOf?` reads a document: a list of lines, each blank or a comment, a header,
or a key with a value, which may go over several lines. A byte order mark in front is
passed over.

Arrays may hold line ends and comments between their items and a comma behind the
last one; inline tables may not.
-/

namespace RouteMap.Toml

/-! ## Values -/

/-- The items of an array, behind its bracket. -/
def items (value : Reader Value) (cs : List Char) : Option (List Value × List Char) :=
  match skipLines false cs with
  | ']' :: rest => some ([], rest)
  | start =>
    match value start with
    | none => none
    | some (v, rest) =>
      match skipLines false rest with
      | ']' :: rest => some ([v], rest)
      | ',' :: rest =>
        if rest.length < cs.length then
          (items value rest).map fun (vs, rest) => (v :: vs, rest)
        else none
      | _ => none
termination_by cs.length

/-- A key with a value. -/
def assignment (value : Reader Value) (cs : List Char) :
    Option ((List String × Value) × List Char) := do
  let (k, rest) ← key cs
  match rest with
  | '=' :: rest =>
    let (v, rest) ← value (skipSpace rest)
    return ((k, v), rest)
  | _ => none

/-- The keys and values of an inline table, at the first key. -/
def entries (value : Reader Value) (cs : List Char) :
    Option (List (List String × Value) × List Char) :=
  match assignment value cs with
  | none => none
  | some (e, rest) =>
    match skipSpace rest with
    | '\x7d' :: rest => some ([e], rest)
    | ',' :: rest =>
      if rest.length < cs.length then
        (entries value rest).map fun (es, rest) => (e :: es, rest)
      else none
    | _ => none
termination_by cs.length

/-- A character of a value that is no string and no container. -/
def isWordChar (c : Char) : Bool := c.isAlphanum || ['+', '-', '_', '.', ':'].contains c

/-- A truth value or a number. -/
def word (cs : List Char) : Option (Value × List Char) :=
  let w := cs.takeWhile isWordChar
  let rest := cs.dropWhile isWordChar
  if w = ['t', 'r', 'u', 'e'] then some (.boolean true, rest)
  else if w = ['f', 'a', 'l', 's', 'e'] then some (.boolean false, rest)
  else match integer? w with
    | some n => some (.integer n, rest)
    | none => (float? w).map fun x => (.float x, rest)

/-- A value that is no container. -/
def scalar (cs : List Char) : Option (Value × List Char) :=
  match cs with
  | '"' :: _ | '\'' :: _ => (string cs).map fun (s, rest) => (.string (String.ofList s), rest)
  | cs =>
    match Moment.moment cs with
    | some rest => some (.moment, rest)
    | none => word cs

/-- A value inside of which at most `depth` containers may be open. -/
def value : (depth : Nat) → Reader Value
  | 0, cs => scalar cs
  | depth + 1, cs =>
    match cs with
    | '[' :: cs => (items (value depth) cs).map fun (vs, rest) => (.array vs, rest)
    | '\x7b' :: cs =>
      match skipSpace cs with
      | '\x7d' :: rest => some (.table [], rest)
      | cs => do
        let (es, rest) ← entries (value depth) cs
        return (.table (← Tree.ofAssignments es), rest)
    | cs => scalar cs

/-! ## Documents -/

/-- A header with one pair of brackets or two, behind the first bracket. -/
def header : Reader Statement
  | '[' :: cs => do
    let (k, rest) ← key cs
    match rest with
    | ']' :: ']' :: rest => return (.arrayHeader k, rest)
    | _ => none
  | cs => do
    let (k, rest) ← key cs
    match rest with
    | ']' :: rest => return (.header k, rest)
    | _ => none

/-- A statement. -/
def statement : Reader Statement
  | '[' :: cs => header cs
  | cs => (assignment (value maxDepth) cs).map fun ((k, v), rest) => (.assign k v, rest)

/-- Whether a line holds no statement. -/
def isEmptyLine (cs : List Char) : Bool := cs.head? = some '#' || (lineEnd? cs).isSome

/-- The statements of a document. -/
def statements (cs : List Char) : Option (List Statement) :=
  let start := skipSpace cs
  if start.isEmpty then some []
  else if isEmptyLine start then
    match restOfLine start with
    | none => none
    | some rest => if rest.length < cs.length then statements rest else none
  else
    match statement start with
    | none => none
    | some (s, rest) =>
      match restOfLine rest with
      | none => none
      | some rest =>
        if rest.length < cs.length then (statements rest).map (s :: ·) else none
termination_by cs.length

/-- A text without the byte order mark in front of it. -/
def withoutMark : List Char → List Char
  | c :: cs => if c = '\uFEFF' then cs else c :: cs
  | [] => []

/-- The fields of a document. -/
def fieldsOf? (text : String) : Option (List (String × Value)) :=
  (statements (withoutMark text.toList)).bind Tree.ofStatements

/-- A document as a node that is checked against a shape. -/
def node? (text : String) : Option Json.Node :=
  (fieldsOf? text).map fun fields => (Value.table fields).toNode

end RouteMap.Toml
