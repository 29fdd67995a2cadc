import RouteMap.Json.Shape
import RouteMap.Proofs.Json.Joining

/-!
# Runs of the machine

Some tokens are those of one value if the machine reads them from its start and stands directly
behind the value (`IsValue`). Then it reads them so wherever a value is due, whatever containers are
open (`IsValue.run`), and nothing is wrong in the value (`IsValue.skipped`). A run that is not stuck
has met complete tokens only (`complete_of_run`).
-/

namespace RouteMap.Json

/-- The tokens are those of one value. -/
def IsValue (ts : List Token) (v : Node) : Prop :=
  ts.foldl State.next .start = .behind v false

theorem Items.skipped_prepend {done : List Node} (h : ∀ v ∈ done, v.skipped = none) (rest : Items) :
    (Items.prepend done rest).skipped = rest.skipped := by
  induction done generalizing rest with
  | nil => rfl
  | cons v done ih =>
    obtain ⟨hv, hdone⟩ := List.forall_mem_cons.mp h
    rw [Items.prepend, ih hdone, Items.skipped, hv, Option.none_or]

theorem Members.skipped_prepend {done : List (Option String × Node)}
    (h : ∀ m ∈ done, m.2.skipped = none) (rest : Members) :
    (Members.prepend done rest).skipped = rest.skipped := by
  induction done generalizing rest with
  | nil => rfl
  | cons m done ih =>
    obtain ⟨hm, hdone⟩ := List.forall_mem_cons.mp h
    rw [Members.prepend, ih hdone, Members.skipped, hm, Option.none_or]

namespace Frame

/-- Nothing is wrong in what a container holds so far. -/
def Clean : Frame → Prop
  | .items done => ∀ v ∈ done, v.skipped = none
  | .members done _ => ∀ m ∈ done, m.2.skipped = none

variable {frame : Frame}

theorem Clean.skipped (h : frame.Clean) : (frame.node .closed).skipped = none := by
  cases frame with
  | items done => exact Items.skipped_prepend h _
  | members done name => exact Members.skipped_prepend h _

theorem Clean.push {v : Node} (h : frame.Clean) (hv : v.skipped = none) : (frame.push v).Clean := by
  cases frame with
  | items done => exact List.forall_mem_cons.mpr ⟨hv, h⟩
  | members done name => exact List.forall_mem_cons.mpr ⟨hv, h⟩

end Frame

namespace State

variable {σ τ : State} {t : Token} {stack upper : List Frame} {v : Node}

/-! ## Moves -/

/-- What a token makes of the open containers. -/
inductive Move where
  | value
  | close
  | stop (ending : Ending)
  | named (name : Option String)
  | expects (expect : Expect)
  | fails

/-- The state that a move leads to. -/
def Move.apply (t : Token) (stack : List Frame) : Move → State
  | value => State.value stack t
  | close => State.close stack
  | stop ending => State.stop ending stack
  | named name => State.named name stack
  | expects expect => .inside expect stack
  | fails => fail .malformed stack

/-- A container is an array. -/
def isArray : Frame → Bool
  | .items _ => true
  | .members _ _ => false

/-- The move of a token. Of the open containers it depends only on whether the innermost is an
array. -/
def move : Expect → Option Bool → Token → Move
  | .value, _, _ => .value
  | .firstItem, _, .closeArray => .close
  | .firstItem, _, _ => .value
  | .itemAfterComma, _, .closeArray => .stop (.afterComma .malformed)
  | .itemAfterComma, _, _ => .value
  | .firstName, _, .closeObject => .close
  | .firstName, _, .string s => .named (some s)
  | .firstName, _, .unreadable true => .named none
  | .firstName, _, .broken true f => .stop (.broken f)
  | .firstName, _, _ => .stop (.broken .malformed)
  | .nameAfterComma, _, .string s => .named (some s)
  | .nameAfterComma, _, .unreadable true => .named none
  | .nameAfterComma, _, .broken true f => .stop (.afterComma f)
  | .nameAfterComma, _, _ => .stop (.afterComma .malformed)
  | .colon, _, .colon => .expects .value
  | .colon, _, _ => .fails
  | .commaOrEnd, some true, .comma => .expects .itemAfterComma
  | .commaOrEnd, some false, .comma => .expects .nameAfterComma
  | .commaOrEnd, some true, .closeArray => .close
  | .commaOrEnd, some false, .closeObject => .close
  | .commaOrEnd, _, _ => .stop (.broken .malformed)

/-- **A token makes one move**, whatever the containers hold. -/
theorem next_inside (expect : Expect) (stack : List Frame) (t : Token) :
    next (.inside expect stack) t = (move expect (stack.head?.map isArray) t).apply t stack := by
  cases expect with
  | value => rfl
  | firstItem | itemAfterComma | colon => cases t <;> rfl
  | firstName | nameAfterComma =>
    cases t with
    | unreadable quoted | broken quoted => cases quoted <;> rfl
    | _ => rfl
  | commaOrEnd =>
    rcases stack with _ | ⟨_ | _, stack⟩
    all_goals cases t <;> rfl

/-! ## Runs inside open containers -/

/-- One state is the other with more open containers below. A state behind its value has come to
the place behind this value in the innermost of them. -/
inductive On (stack : List Frame) : State → State → Prop
  | inside {expect : Expect} {upper : List Frame} (h : upper = [] → expect = .value) :
      On stack (.inside expect upper) (.inside expect (upper ++ stack))
  | behind {v : Node} : On stack (.behind v false) (complete v stack)
  | beyond {v : Node} {τ : State} : On stack (.behind v true) τ
  | stuck {v : Node} {τ : State} : On stack (.stuck v) τ

theorem On.opened (expect : Expect) (frame : Frame) (upper : List Frame) :
    On stack (.inside expect (frame :: upper)) (.inside expect (frame :: (upper ++ stack))) :=
  .inside fun hnil => absurd hnil (List.cons_ne_nil frame upper)

theorem On.complete (v : Node) (upper : List Frame) :
    On stack (complete v upper) (State.complete v (upper ++ stack)) := by
  cases upper with
  | nil => exact .behind
  | cons frame upper => exact .opened _ _ upper

theorem On.close (h : upper ≠ []) : On stack (close upper) (State.close (upper ++ stack)) := by
  obtain ⟨frame, upper, rfl⟩ := List.exists_cons_of_ne_nil h
  exact .complete _ upper

theorem On.stop (ending : Ending) (upper : List Frame) : On stack (stop ending upper) τ := by
  cases upper <;> exact .stuck

theorem On.named (name : Option String) (h : upper ≠ []) :
    On stack (named name upper) (State.named name (upper ++ stack)) := by
  obtain ⟨frame, upper, rfl⟩ := List.exists_cons_of_ne_nil h
  cases frame with
  | items done => exact .stuck
  | members done _ => exact .opened _ _ upper

theorem On.value (t : Token) (upper : List Frame) :
    On stack (value upper t) (State.value (upper ++ stack) t) := by
  cases t with
  | openArray => exact .opened _ _ upper
  | openObject => exact .opened _ _ upper
  | null | bool | number | string | unreadable => exact .complete _ upper
  | _ => exact .stuck

/-- One more token does not look below the containers that are open since the start. -/
theorem On.next (h : On stack σ τ) (t : Token) : On stack (σ.next t) (τ.next t) := by
  cases h with
  | behind | beyond => exact .beyond
  | stuck => exact .stuck
  | @inside expect upper hvalue =>
    by_cases hne : upper = []
    · subst hne
      rw [hvalue rfl]
      exact .value t []
    · have hhead : (upper ++ stack).head? = upper.head? := List.head?_append_of_ne_nil _ hne
      rw [next_inside, next_inside, hhead]
      cases move expect (upper.head?.map isArray) t with
      | value => exact .value t upper
      | close => exact .close hne
      | stop ending => exact .stop ending upper
      | named name => exact .named name hne
      | expects expect => exact .inside fun hnil => absurd hnil hne
      | fails => exact .stuck

theorem On.foldl (h : On stack σ τ) (ts : List Token) :
    On stack (ts.foldl State.next σ) (ts.foldl State.next τ) := by
  induction ts generalizing σ τ with
  | nil => exact h
  | cons t ts ih => exact ih (h.next t)

theorem On.eq_complete (h : On stack σ τ) (hσ : σ = .behind v false) :
    τ = State.complete v stack := by
  cases h with
  | behind =>
    cases hσ
    rfl
  | inside | beyond | stuck => cases hσ

/-! ## Complete tokens -/

/-- The machine has met nothing wrong. -/
def Going : State → Prop
  | .inside _ _ => True
  | .behind _ trailing => trailing = false
  | .stuck _ => False

theorem not_going_stop (ending : Ending) (stack : List Frame) : ¬ (stop ending stack).Going := by
  cases stack <;> exact id

/-- What is going has been so, and has met a complete token last. -/
theorem going_of_next (h : (σ.next t).Going) : σ.Going ∧ t.Complete := by
  cases σ with
  | stuck v => exact h.elim
  | behind v trailing => cases h
  | inside expect stack =>
    refine ⟨trivial, ?_⟩
    cases t with
    | broken quoted f =>
      cases expect with
      | value | firstItem | itemAfterComma | colon => exact h
      | firstName | nameAfterComma => cases quoted <;> exact absurd h (not_going_stop _ _)
      | commaOrEnd => exact absurd h (not_going_stop _ _)
    | stray =>
      cases expect with
      | value | firstItem | itemAfterComma | colon => exact h
      | firstName | nameAfterComma | commaOrEnd => exact absurd h (not_going_stop _ _)
    | _ => trivial

/-- **A run that is going has met complete tokens only.** -/
theorem complete_of_run {ts : List Token} (h : (ts.foldl State.next σ).Going) :
    σ.Going ∧ ∀ t ∈ ts, t.Complete := by
  induction ts generalizing σ with
  | nil => exact ⟨h, fun t ht => absurd ht List.not_mem_nil⟩
  | cons t ts ih =>
    obtain ⟨hnext, hothers⟩ := ih h
    obtain ⟨hσ, ht⟩ := going_of_next hnext
    exact ⟨hσ, List.forall_mem_cons.mpr ⟨ht, hothers⟩⟩

/-! ## Values without fault -/

/-- Nothing is wrong in the values that are complete. -/
def Unspoiled : State → Prop
  | .inside _ stack => ∀ frame ∈ stack, frame.Clean
  | .behind v _ => v.skipped = none
  | .stuck _ => True

theorem unspoiled_complete (h : ∀ frame ∈ stack, frame.Clean) (hv : v.skipped = none) :
    (complete v stack).Unspoiled := by
  cases stack with
  | nil => exact hv
  | cons frame stack =>
    obtain ⟨hframe, hstack⟩ := List.forall_mem_cons.mp h
    exact List.forall_mem_cons.mpr ⟨hframe.push hv, hstack⟩

theorem unspoiled_close (h : ∀ frame ∈ stack, frame.Clean) : (close stack).Unspoiled := by
  cases stack with
  | nil => trivial
  | cons frame stack =>
    obtain ⟨hframe, hstack⟩ := List.forall_mem_cons.mp h
    exact unspoiled_complete hstack (hframe.skipped)

theorem unspoiled_stop (ending : Ending) (stack : List Frame) : (stop ending stack).Unspoiled := by
  cases stack <;> trivial

theorem unspoiled_named (name : Option String) (h : ∀ frame ∈ stack, frame.Clean) :
    (named name stack).Unspoiled := by
  cases stack with
  | nil => trivial
  | cons frame stack =>
    cases frame with
    | items done => trivial
    | members done _ =>
      obtain ⟨hframe, hstack⟩ := List.forall_mem_cons.mp h
      exact List.forall_mem_cons.mpr ⟨hframe, hstack⟩

theorem unspoiled_value (t : Token) (h : ∀ frame ∈ stack, frame.Clean) :
    (value stack t).Unspoiled := by
  cases t with
  | openArray | openObject =>
    exact List.forall_mem_cons.mpr ⟨fun _ hmem => absurd hmem List.not_mem_nil, h⟩
  | null | bool | number | string | unreadable => exact unspoiled_complete h rfl
  | _ => trivial

/-- One more token spoils no value that is complete. -/
theorem Unspoiled.next (h : σ.Unspoiled) (t : Token) : (σ.next t).Unspoiled := by
  cases σ with
  | stuck v => trivial
  | behind v trailing => exact h
  | inside expect stack =>
    rw [next_inside]
    cases move expect (stack.head?.map isArray) t with
    | value => exact unspoiled_value t h
    | close => exact unspoiled_close h
    | stop ending => exact unspoiled_stop ending stack
    | named name => exact unspoiled_named name h
    | expects expect => exact h
    | fails => trivial

theorem Unspoiled.foldl (h : σ.Unspoiled) (ts : List Token) :
    (ts.foldl State.next σ).Unspoiled := by
  induction ts generalizing σ with
  | nil => exact h
  | cons t ts ih => exact ih (h.next t)

end State

/-! ## One value -/

namespace IsValue

variable {ts : List Token} {v : Node}

/-- **A value is read wherever one is due.** -/
theorem run (h : IsValue ts v) (stack : List Frame) :
    ts.foldl State.next (.inside .value stack) = .complete v stack := by
  have hon : State.On stack .start (.inside .value ([] ++ stack)) := .inside fun _ => rfl
  have hrun := hon.foldl ts
  exact hrun.eq_complete h

/-- **Nothing is wrong in a complete value.** -/
theorem skipped (h : IsValue ts v) : v.skipped = none := by
  have hstart : State.Unspoiled .start := fun frame hframe => absurd hframe List.not_mem_nil
  have hrun := hstart.foldl ts
  rw [h] at hrun
  exact hrun

theorem complete (h : IsValue ts v) : ∀ t ∈ ts, t.Complete := by
  refine (State.complete_of_run (σ := .start) ?_).2
  rw [h]
  rfl

end IsValue

end RouteMap.Json
