import RouteMap.Proofs.Json.Runs

/-!
# One member more

What shape is due inside the open containers of a run (`Stack.due?`) and where they stand in the
document (`Stack.path`) is seen from the containers. If one of two runs has read a member more in an
object that stands for a record, and both go on with the same tokens, then their documents differ in
this member only (`State.Gains.foldl`, `Document.gains_ofTokens`): one gains it at the path of the
object (`Node.Gains`).
-/

namespace RouteMap.Json

/-! ## Places -/

/-- The fields behind the first ones. -/
def Layout.drop : Nat → Layout → Layout
  | 0, layout => layout
  | _ + 1, .nil => .nil
  | n + 1, .field _ _ _ rest => rest.drop n

/-- The shape of a field by its position. -/
def Layout.slot? (layout : Layout) (n : Nat) : Option Shape :=
  match layout.drop n with
  | .nil => none
  | .field _ _ shape _ => some shape

namespace Frame

/-- The shape of the next value of a container of a shape. -/
def due? (frame : Frame) (shape : Shape) : Option Shape :=
  match frame, shape with
  | .items _, .list item => some item
  | .items done, .record _ layout => layout.slot? done.length
  | .members _ _, .table value => some value
  | .members _ (some name), .record _ layout => (layout.find? name).map Prod.snd
  | _, _ => none

/-- How many values a container holds. -/
def size : Frame → Nat
  | .items done => done.length
  | .members done _ => done.length

end Frame

/-- The shape that is due inside open containers of a document of a shape. -/
def Stack.due? (root : Shape) : List Frame → Option Shape
  | [] => some root
  | frame :: stack => (Stack.due? root stack).bind frame.due?

/-- The position of the next value in each of the open containers, from the outermost. -/
def Stack.path : List Frame → List Nat
  | [] => []
  | frame :: stack => Stack.path stack ++ [frame.size]

/-- The values of some items. -/
def Items.values : Items → List Node
  | .stop _ => []
  | .item v rest => v :: rest.values

/-- The names and values of some members. -/
def Members.entries : Members → List (Option String × Node)
  | .stop _ => []
  | .member name v rest => (name, v) :: rest.entries

/-- The values in a container. -/
def Node.parts : Node → List Node
  | .array items => items.values
  | .object members => members.entries.map Prod.snd
  | _ => []

/-- The value at a path. -/
def Node.at? : List Nat → Node → Option Node
  | [], v => some v
  | n :: path, v => v.parts[n]?.bind (at? path)

theorem Items.values_prepend (done : List Node) (rest : Items) :
    (Items.prepend done rest).values = done.reverse ++ rest.values := by
  induction done generalizing rest with
  | nil => rfl
  | cons v done ih =>
    rw [Items.prepend, ih, List.reverse_cons, List.append_assoc]
    rfl

theorem Members.entries_prepend (done : List (Option String × Node)) (rest : Members) :
    (Members.prepend done rest).entries = done.reverse ++ rest.entries := by
  induction done generalizing rest with
  | nil => rfl
  | cons m done ih =>
    rw [Members.prepend, ih, List.reverse_cons, List.append_assoc]
    rfl

theorem Node.at?_array (done : List Node) (v : Node) (rest : Items) (path : List Nat) :
    (Node.array (.prepend done (.item v rest))).at? (done.length :: path) = v.at? path := by
  rw [Node.at?, Node.parts, Items.values_prepend, Items.values,
    List.getElem?_append_right List.length_reverse.le, List.length_reverse, Nat.sub_self]
  rfl

theorem Node.at?_object (done : List (Option String × Node)) (name : Option String) (v : Node)
    (rest : Members) (path : List Nat) :
    (Node.object (.prepend done (.member name v rest))).at? (done.length :: path) = v.at? path := by
  rw [Node.at?, Node.parts, Members.entries_prepend, Members.entries, List.map_append,
    List.getElem?_append_right (by simp), List.length_map, List.length_reverse, Nat.sub_self]
  rfl

/-! ## Documents that differ in one member -/

section

variable (name : String) (v : Node) (strict : Bool) (layout : Layout)

/-- Of two values of a shape the second has one member more, in the object at a path, which stands
for a record. -/
inductive Node.Gains : List Nat → Shape → Node → Node → Prop
  | here (done : List (Option String × Node)) (rest : Members) :
      Gains [] (.record strict layout) (.object (.prepend done rest))
        (.object (.prepend done (.member (some name) v rest)))
  | item {path : List Nat} {shape : Shape} {w w' : Node} (done : List Node) (rest : Items)
      (h : Gains path shape w w') :
      Gains (done.length :: path) (.list shape) (.array (.prepend done (.item w rest)))
        (.array (.prepend done (.item w' rest)))
  | slot {path : List Nat} {shape : Shape} {w w' : Node} {outer : Bool} {fields : Layout}
      (done : List Node) (rest : Items) (hslot : fields.slot? done.length = some shape)
      (h : Gains path shape w w') :
      Gains (done.length :: path) (.record outer fields) (.array (.prepend done (.item w rest)))
        (.array (.prepend done (.item w' rest)))
  | value {path : List Nat} {shape : Shape} {w w' : Node} (done : List (Option String × Node))
      (key : Option String) (rest : Members) (h : Gains path shape w w') :
      Gains (done.length :: path) (.table shape) (.object (.prepend done (.member key w rest)))
        (.object (.prepend done (.member key w' rest)))
  | field {path : List Nat} {presence : Presence} {shape : Shape} {w w' : Node} {outer : Bool}
      {fields : Layout} (done : List (Option String × Node)) {key : String} (rest : Members)
      (hfield : fields.find? key = some (presence, shape)) (h : Gains path shape w w') :
      Gains (done.length :: path) (.record outer fields)
        (.object (.prepend done (.member (some key) w rest)))
        (.object (.prepend done (.member (some key) w' rest)))

/-- Of two open containers the second has one member more in it, whatever follows. -/
inductive Frame.Gains (path : List Nat) (shape : Shape) : Frame → Frame → Prop
  | items {done done' : List Node}
      (h : ∀ rest, Node.Gains name v strict layout path shape (.array (.prepend done rest))
        (.array (.prepend done' rest))) : Gains path shape (.items done) (.items done')
  | members {done done' : List (Option String × Node)} {key : Option String}
      (h : ∀ rest, Node.Gains name v strict layout path shape (.object (.prepend done rest))
        (.object (.prepend done' rest))) : Gains path shape (.members done key) (.members done' key)

/-- Of two stacks of open containers of a document the second has one member more in it. -/
inductive Stack.Gains (root : Shape) (whole : List Nat) : List Frame → List Frame → Prop
  | innermost {frame frame' : Frame} {stack : List Frame} {shape : Shape} {inner : List Nat}
      (hdue : Stack.due? root stack = some shape) (hpath : whole = Stack.path stack ++ inner)
      (h : Frame.Gains name v strict layout inner shape frame frame') :
      Gains root whole (frame :: stack) (frame' :: stack)
  | above {stack stack' : List Frame} (frame : Frame) (h : Gains root whole stack stack') :
      Gains root whole (frame :: stack) (frame :: stack')

/-- Of two runs the second has read one member more. -/
inductive State.Gains (root : Shape) (whole : List Nat) : State → State → Prop
  | inside {expect : Expect} {stack stack' : List Frame}
      (h : Stack.Gains name v strict layout root whole stack stack') :
      Gains root whole (.inside expect stack) (.inside expect stack')
  | behind {w w' : Node} {trailing : Bool} (h : Node.Gains name v strict layout whole root w w') :
      Gains root whole (.behind w trailing) (.behind w' trailing)
  | stuck {w w' : Node} (h : Node.Gains name v strict layout whole root w w') :
      Gains root whole (.stuck w) (.stuck w')

end

variable {name : String} {v : Node} {strict : Bool} {layout : Layout} {root shape : Shape}
  {whole inner : List Nat} {w w' : Node} {frame frame' : Frame} {stack stack' : List Frame}

/-! ## Containers -/

namespace Frame.Gains

theorem isArray (h : Frame.Gains name v strict layout inner shape frame frame') :
    State.isArray frame = State.isArray frame' := by
  cases h <;> rfl

theorem push (h : Frame.Gains name v strict layout inner shape frame frame') (w : Node) :
    Frame.Gains name v strict layout inner shape (frame.push w) (frame'.push w) := by
  cases h with
  | items h => exact .items fun rest => h (.item w rest)
  | @members _ _ key h => exact .members fun rest => h (.member key w rest)

theorem node (h : Frame.Gains name v strict layout inner shape frame frame') (ending : Ending) :
    Node.Gains name v strict layout inner shape (frame.node ending) (frame'.node ending) := by
  cases h with
  | items h => exact h (.stop ending)
  | members h => exact h (.stop ending)

/-- A container holds a member more if its next value does. -/
theorem of_part {part : Shape} (hdue : frame.due? shape = some part)
    (h : Node.Gains name v strict layout inner part w w') :
    Frame.Gains name v strict layout (frame.size :: inner) shape (frame.push w)
      (frame.push w') := by
  cases frame with
  | items done =>
    cases shape with
    | list item =>
      obtain rfl := Option.some.inj hdue
      exact .items fun rest => .item done rest h
    | record outer fields => exact .items fun rest => .slot done rest hdue h
    | _ => cases hdue
  | members done key =>
    cases shape with
    | table value =>
      have hdue : some value = some part := by cases key <;> exact hdue
      obtain rfl := Option.some.inj hdue
      exact .members fun rest => .value done key rest h
    | record outer fields =>
      cases key with
      | none => cases hdue
      | some key =>
        obtain ⟨⟨presence, _⟩, hfield, rfl⟩ := Option.map_eq_some_iff.mp hdue
        exact .members fun rest => .field done rest hfield h
    | _ => cases key <;> cases hdue

end Frame.Gains

/-! ## Runs -/

theorem Stack.exists_of_due?_cons (h : Stack.due? root (frame :: stack) = some shape) :
    ∃ outer, Stack.due? root stack = some outer ∧ frame.due? outer = some shape :=
  Option.bind_eq_some_iff.mp h

theorem Stack.path_cons_append (frame : Frame) (stack : List Frame) (inner : List Nat) :
    Stack.path (frame :: stack) ++ inner = Stack.path stack ++ frame.size :: inner :=
  List.append_assoc (Stack.path stack) [frame.size] inner

theorem State.Gains.complete (hdue : Stack.due? root stack = some shape)
    (hpath : whole = Stack.path stack ++ inner)
    (h : Node.Gains name v strict layout inner shape w w') :
    State.Gains name v strict layout root whole (.complete w stack) (.complete w' stack) := by
  cases stack with
  | nil =>
    obtain rfl := Option.some.inj hdue
    obtain rfl : whole = inner := hpath
    exact .behind h
  | cons frame stack =>
    obtain ⟨outer, houter, hpart⟩ := Stack.exists_of_due?_cons hdue
    rw [Stack.path_cons_append] at hpath
    exact .inside (.innermost houter hpath (.of_part hpart h))

/-- A value that has a member more stands in a document that has it. -/
theorem Node.Gains.collapse (hdue : Stack.due? root stack = some shape)
    (hpath : whole = Stack.path stack ++ inner)
    (h : Node.Gains name v strict layout inner shape w w') :
    Node.Gains name v strict layout whole root (State.collapse w stack)
      (State.collapse w' stack) := by
  induction stack generalizing shape inner w w' with
  | nil =>
    obtain rfl := Option.some.inj hdue
    obtain rfl : whole = inner := hpath
    exact h
  | cons frame stack ih =>
    obtain ⟨outer, houter, hpart⟩ := Stack.exists_of_due?_cons hdue
    rw [Stack.path_cons_append] at hpath
    exact ih houter hpath ((Frame.Gains.of_part hpart h).node _)

namespace Stack.Gains

variable (h : Stack.Gains name v strict layout root whole stack stack')
include h

theorem isArray_head? : stack.head?.map State.isArray = stack'.head?.map State.isArray := by
  cases h with
  | innermost _ _ h => exact congrArg some h.isArray
  | above => rfl

theorem complete (w : Node) :
    State.Gains name v strict layout root whole (.complete w stack) (.complete w stack') := by
  cases h with
  | innermost hdue hpath h => exact .inside (.innermost hdue hpath (h.push w))
  | above frame h => exact .inside (.above _ h)

theorem close : State.Gains name v strict layout root whole (.close stack) (.close stack') := by
  cases h with
  | innermost hdue hpath h => exact .complete hdue hpath (h.node .closed)
  | above frame h => exact h.complete _

theorem collapse (w : Node) :
    Node.Gains name v strict layout whole root (State.collapse w stack)
      (State.collapse w stack') := by
  induction h generalizing w with
  | innermost hdue hpath h => exact .collapse hdue hpath ((h.push w).node _)
  | above frame _ ih => exact ih _

theorem collapse_node (ending : Ending) :
    State.Gains name v strict layout root whole (.stop ending stack) (.stop ending stack') := by
  cases h with
  | innermost hdue hpath h => exact .stuck (.collapse hdue hpath (h.node ending))
  | above frame h => exact .stuck (h.collapse _)

theorem named (key : Option String) :
    State.Gains name v strict layout root whole (.named key stack) (.named key stack') := by
  cases h with
  | innermost hdue hpath h =>
    cases h with
    | items h => exact (Stack.Gains.innermost hdue hpath (.items h)).collapse_node _
    | members h => exact .inside (.innermost hdue hpath (.members h))
  | above frame h =>
    cases frame with
    | items done => exact (Stack.Gains.above (.items done) h).collapse_node _
    | members done _ => exact .inside (.above _ h)

theorem value (t : Token) :
    State.Gains name v strict layout root whole (.value stack t) (.value stack' t) := by
  cases t with
  | openArray | openObject => exact .inside (.above _ h)
  | null | bool | number | string | unreadable => exact h.complete _
  | _ => exact .stuck (h.collapse _)

end Stack.Gains

namespace State.Gains

variable {σ σ' : State}

/-- One more token leaves the difference where it is. -/
theorem next (h : State.Gains name v strict layout root whole σ σ') (t : Token) :
    State.Gains name v strict layout root whole (σ.next t) (σ'.next t) := by
  cases h with
  | behind h => exact .behind h
  | stuck h => exact .stuck h
  | @inside expect stack stack' h =>
    rw [next_inside, next_inside, h.isArray_head?]
    cases move expect (stack'.head?.map isArray) t with
    | value => exact h.value t
    | close => exact h.close
    | stop ending => exact h.collapse_node ending
    | named key => exact h.named key
    | expects expect => exact .inside h
    | fails => exact .stuck (h.collapse _)

theorem foldl (h : State.Gains name v strict layout root whole σ σ') (ts : List Token) :
    State.Gains name v strict layout root whole (ts.foldl State.next σ)
      (ts.foldl State.next σ') := by
  induction ts generalizing σ σ' with
  | nil => exact h
  | cons t ts ih => exact ih (h.next t)

theorem finish (h : State.Gains name v strict layout root whole σ σ') :
    Node.Gains name v strict layout whole root σ.finish σ'.finish := by
  cases h with
  | behind h => exact h
  | stuck h => exact h
  | @inside expect stack stack' h =>
    have hvalue := h.collapse (.fault .ended)
    cases h with
    | innermost hdue hpath h =>
      cases expect with
      | value | colon => exact hvalue
      | _ => exact .collapse hdue hpath (h.node _)
    | above frame h =>
      cases expect with
      | value | colon => exact hvalue
      | _ => exact h.collapse _

end State.Gains

/-- **Two texts that differ in one member are two documents that differ in it.** -/
theorem Document.gains_ofTokens {before after rest : List Token}
    (h : State.Gains name v strict layout root whole (before.foldl State.next .start)
      (after.foldl State.next .start)) :
    Node.Gains name v strict layout whole root (ofTokens (before ++ rest)).root
        (ofTokens (after ++ rest)).root ∧
      (ofTokens (after ++ rest)).trailing = (ofTokens (before ++ rest)).trailing := by
  have hrun := h.foldl rest
  rw [← List.foldl_append, ← List.foldl_append] at hrun
  have hfinish := hrun.finish
  unfold ofTokens
  generalize (before ++ rest).foldl State.next .start = σ at hrun hfinish ⊢
  generalize (after ++ rest).foldl State.next .start = σ' at hrun hfinish ⊢
  cases hrun with
  | behind h => exact ⟨h, rfl⟩
  | inside h => exact ⟨hfinish, rfl⟩
  | stuck h => exact ⟨hfinish, rfl⟩

end RouteMap.Json
