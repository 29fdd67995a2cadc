import RouteMap.Json.Shape
import RouteMap.Proofs.Json.Tree

/-!
# Plain values

A plain value is wanted where the shape does not say which kind of value stands there: a
flag, a number, a text, or an array of such values. The reader looks for problems in the
whole value before it takes it, so both walks have to pass over every item
(`Plain.problem_ofJson`, `Plain.plain?_ofJson`).
-/

namespace RouteMap.Json

/-- A value has neither null nor objects in it, its numbers are read exactly, and at most
`depth` of its arrays are open at a time. -/
inductive Plain : Nat → Json → Prop where
  | flag {depth : Nat} (b : Bool) : Plain depth (.bool b)
  | number {depth : Nat} {n : Number} (hn : n.Exact) : Plain depth (.number n)
  | text {depth : Nat} (s : String) : Plain depth (.string s)
  | array {depth : Nat} {vs : List Json} (hvs : ∀ v ∈ vs, Plain depth v) :
      Plain (depth + 1) (.array vs)

theorem Plain.tail {depth : Nat} {v : Json} {vs : List Json}
    (h : ∀ w ∈ v :: vs, Plain depth w) : ∀ w ∈ vs, Plain depth w :=
  fun w hw => h w (List.mem_cons_of_mem v hw)

mutual

/-- Nothing is wrong in a plain value. -/
theorem Plain.problem_ofJson (v : Json) {depth : Nat} (h : Plain depth v) :
    (Node.ofJson v).problem depth = none := by
  cases v with
  | array vs =>
    cases h with
    | array hvs => exact Plain.problem_ofList vs hvs
  | null => cases h
  | object fs => cases h
  | _ => rfl

theorem Plain.problem_ofList (vs : List Json) {depth : Nat} (h : ∀ v ∈ vs, Plain depth v) :
    (Items.ofList vs).problem depth = none := by
  cases vs with
  | nil => rfl
  | cons v vs =>
    have hfirst := Plain.problem_ofJson v (h v List.mem_cons_self)
    have hothers := Plain.problem_ofList vs (Plain.tail h)
    rw [Items.ofList, Items.problem, hfirst, hothers]
    rfl

end

mutual

/-- A plain value is taken as it is. -/
theorem Plain.plain?_ofJson (v : Json) {depth : Nat} (h : Plain depth v) :
    (Node.ofJson v).plain? = some v := by
  cases v with
  | array vs =>
    cases h with
    | array hvs =>
      have hitems := Plain.plain?_ofList vs hvs
      rw [Node.ofJson, Node.plain?, hitems]
      rfl
  | null => cases h
  | object fs => cases h
  | _ => rfl

theorem Plain.plain?_ofList (vs : List Json) {depth : Nat} (h : ∀ v ∈ vs, Plain depth v) :
    (Items.ofList vs).plain? = some vs := by
  cases vs with
  | nil => rfl
  | cons v vs =>
    have hfirst := Plain.plain?_ofJson v (h v List.mem_cons_self)
    have hothers := Plain.plain?_ofList vs (Plain.tail h)
    rw [Items.ofList, Items.plain?, hfirst, hothers]
    rfl

end

theorem Plain.asPlain_ofJson {v : Json} {depth : Nat} (h : Plain depth v) :
    Node.asPlain depth (Node.ofJson v) = .ok v := by
  unfold Node.asPlain
  rw [Plain.problem_ofJson v h, Plain.plain?_ofJson v h]

/-- **A plain value is read as it is.** -/
theorem Plain.conform_ofJson {v : Json} {depth : Nat} (h : Plain depth v) :
    (Node.ofJson v).conform .json depth .plain = .ok v := by
  rw [← h.asPlain_ofJson]
  cases h <;> rfl

mutual

theorem Plain.exact (v : Json) {depth : Nat} (h : Plain depth v) : Exact v := by
  cases v with
  | number n =>
    cases h with
    | number hn => exact hn
  | array vs =>
    cases h with
    | array hvs => exact Plain.exactItems vs hvs
  | object fs => cases h
  | _ => trivial

theorem Plain.exactItems (vs : List Json) {depth : Nat} (h : ∀ v ∈ vs, Plain depth v) :
    ExactItems vs := by
  cases vs with
  | nil => trivial
  | cons v vs =>
    exact ⟨Plain.exact v (h v List.mem_cons_self), Plain.exactItems vs (Plain.tail h)⟩

end

end RouteMap.Json
