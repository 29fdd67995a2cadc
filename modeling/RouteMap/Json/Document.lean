import RouteMap.Json.Token

/-!
# JSON documents

A `Node` is a JSON value together with what is wrong in it: where the text stops
being JSON, the tree stops too, with a `Fault` or an `Ending` that says why. A
reader walks the tree in the order of the text and so meets the first fault, or the
first part that does not suit it, where the text has it.

`Document.ofText` builds the tree from the tokens by a machine whose state is the
stack of the containers that are still open.
-/

namespace RouteMap.Json

/-- How a container stops. -/
inductive Ending where
  /-- By its bracket. -/
  | closed
  /-- Before a comma or its bracket. -/
  | broken (fault : Fault)
  /-- Behind a comma. -/
  | afterComma (fault : Fault)
deriving DecidableEq, Repr

/-- The category of an ending for a reader who wants one more item or name. -/
def Ending.category : Ending → Option Category
  | .closed => none
  | .broken f => some f.read
  | .afterComma f => some f.read

/-- The category of an ending for a reader who passes over the container. -/
def Ending.skipped : Ending → Option Category
  | .closed => none
  | .broken f => some f.skipped
  | .afterComma f => some f.skipped

mutual

/-- A value of a document. -/
inductive Node where
  | null
  | bool (b : Bool)
  | number (n : Number)
  | string (s : String)
  /-- A complete number or string that has no value. -/
  | unreadable
  | array (items : Items)
  | object (members : Members)
  /-- The text stops being JSON where this value is due. -/
  | fault (f : Fault)

/-- The items of an array. -/
inductive Items where
  | stop (ending : Ending)
  | item (value : Node) (rest : Items)

/-- The members of an object. A name without value is `none`. -/
inductive Members where
  | stop (ending : Ending)
  | member (name : Option String) (value : Node) (rest : Members)

end

instance : Inhabited Node := ⟨.null⟩

/-- The items in front of others, given in reverse. -/
def Items.prepend : List Node → Items → Items
  | [], items => items
  | v :: vs, items => prepend vs (.item v items)

/-- The members in front of others, given in reverse. -/
def Members.prepend : List (Option String × Node) → Members → Members
  | [], members => members
  | (name, v) :: ms, members => prepend ms (.member name v members)

/-! ## Values as nodes -/

mutual

/-- A value as a node. -/
def Node.ofJson : Json → Node
  | .null => .null
  | .bool b => .bool b
  | .number n => .number n
  | .string s => .string s
  | .array items => .array (Items.ofList items)
  | .object fields => .object (Members.ofList fields)

/-- Values as the items of a closed array. -/
def Items.ofList : List Json → Items
  | [] => .stop .closed
  | v :: vs => .item (Node.ofJson v) (Items.ofList vs)

/-- Fields as the members of a closed object. -/
def Members.ofList : List (String × Json) → Members
  | [] => .stop .closed
  | (name, v) :: fs => .member (some name) (Node.ofJson v) (Members.ofList fs)

end

/-! ## Building the tree -/

/-- An open container: what it holds so far, in reverse, and for an object the name
whose value is due. -/
inductive Frame where
  | items (done : List Node)
  | members (done : List (Option String × Node)) (name : Option String)

namespace Frame

/-- The container when it stops. -/
def node (frame : Frame) (ending : Ending) : Node :=
  match frame with
  | .items done => .array (Items.prepend done (.stop ending))
  | .members done _ => .object (Members.prepend done (.stop ending))

/-- The container with one more value. -/
def push (frame : Frame) (v : Node) : Frame :=
  match frame with
  | .items done => .items (v :: done)
  | .members done name => .members ((name, v) :: done) none

end Frame

/-- What may come next. -/
inductive Expect where
  | value
  | firstItem
  | itemAfterComma
  | firstName
  | nameAfterComma
  | colon
  | commaOrEnd
deriving DecidableEq, Repr

/-- The state of the machine: inside a document, behind one, or stuck. -/
inductive State where
  | inside (expect : Expect) (stack : List Frame)
  | behind (root : Node) (trailing : Bool)
  | stuck (root : Node)

namespace State

/-- At the start a value is due. -/
def start : State := .inside .value []

/-- A complete value: the next one in its container, or the whole document. -/
def complete (v : Node) : List Frame → State
  | [] => .behind v false
  | frame :: stack => .inside .commaOrEnd (frame.push v :: stack)

/-- The tree in which a value is the last thing in every open container. -/
def collapse (v : Node) : List Frame → Node
  | [] => v
  | frame :: stack => collapse ((frame.push v).node (.broken .ended)) stack

/-- The text stops being JSON where a value is due. -/
def fail (f : Fault) (stack : List Frame) : State := .stuck (collapse (.fault f) stack)

/-- The innermost container stops with an ending other than its bracket. -/
def stop (ending : Ending) : List Frame → State
  | [] => .stuck (.fault .malformed)
  | frame :: stack => .stuck (collapse (frame.node ending) stack)

/-- The innermost container is closed. -/
def close : List Frame → State
  | [] => .stuck (.fault .malformed)
  | frame :: stack => complete (frame.node .closed) stack

/-- An object whose next name is known. -/
def named (name : Option String) : List Frame → State
  | .members done _ :: stack => .inside .colon (.members done name :: stack)
  | stack => stop (.broken .malformed) stack

/-- A token where a value is due. -/
def value (stack : List Frame) : Token → State
  | .openArray => .inside .firstItem (.items [] :: stack)
  | .openObject => .inside .firstName (.members [] none :: stack)
  | .null => complete .null stack
  | .bool b => complete (.bool b) stack
  | .number n => complete (.number n) stack
  | .string s => complete (.string s) stack
  | .unreadable _ => complete .unreadable stack
  | .broken _ f => fail f stack
  | _ => fail .malformed stack

/-- The state after one more token. -/
def next : State → Token → State
  | .stuck v, _ => .stuck v
  | .behind v _, _ => .behind v true
  | .inside .value stack, t => value stack t
  | .inside .firstItem stack, t =>
    match t with
    | .closeArray => close stack
    | t => value stack t
  | .inside .itemAfterComma stack, t =>
    match t with
    | .closeArray => stop (.afterComma .malformed) stack
    | t => value stack t
  | .inside .firstName stack, t =>
    match t with
    | .closeObject => close stack
    | .string s => named (some s) stack
    | .unreadable true => named none stack
    | .broken true f => stop (.broken f) stack
    | _ => stop (.broken .malformed) stack
  | .inside .nameAfterComma stack, t =>
    match t with
    | .string s => named (some s) stack
    | .unreadable true => named none stack
    | .broken true f => stop (.afterComma f) stack
    | _ => stop (.afterComma .malformed) stack
  | .inside .colon stack, t =>
    match t with
    | .colon => .inside .value stack
    | _ => fail .malformed stack
  | .inside .commaOrEnd stack, t =>
    match t, stack with
    | .comma, .items _ :: _ => .inside .itemAfterComma stack
    | .comma, .members _ _ :: _ => .inside .nameAfterComma stack
    | .closeArray, .items _ :: _ => close stack
    | .closeObject, .members _ _ :: _ => close stack
    | _, _ => stop (.broken .malformed) stack

/-- The tree when there are no more tokens. -/
def finish : State → Node
  | .stuck v => v
  | .behind v _ => v
  | .inside expect stack =>
    let ending : Ending :=
      match expect with
      | .itemAfterComma | .nameAfterComma => .afterComma .ended
      | _ => .broken .ended
    match expect, stack with
    | .value, _ | .colon, _ | _, [] => collapse (.fault .ended) stack
    | _, frame :: stack => collapse (frame.node ending) stack

end State

/-- A document: its value, and whether something follows it. -/
structure Document where
  root : Node
  trailing : Bool

/-- The document of a list of tokens. -/
def Document.ofTokens (ts : List Token) : Document :=
  match ts.foldl State.next .start with
  | .behind v trailing => ⟨v, trailing⟩
  | state => ⟨state.finish, false⟩

/-- The document of a text. -/
def Document.ofText (text : String) : Document := ofTokens (tokens text.toList)

end RouteMap.Json
