import RouteMap.Annotation.Basic
import RouteMap.Proofs.Json.Fields

/-!
# Annotations that were written

The JSON form of a value does not say which kind the value has. The reader takes the kind
from the form alone, and no two kinds share a form (`Value.ofJson?_toJson`). A text may
still lose something: a float is not always read as it was written, and a reader stands only
so many arrays inside each other. Without floats, and with the arrays within its depth, the
form is one that a reader leaves as it is (`Value.plain_toJson`).
-/

namespace RouteMap.Annotation

namespace Value

mutual

/-- Whether no leaf of a value is a float. -/
def floatFree : Value → Bool
  | .float _ => false
  | .array items => floatFreeAll items
  | _ => true

/-- Whether no leaf of some values is a float. -/
def floatFreeAll : List Value → Bool
  | [] => true
  | v :: vs => v.floatFree && floatFreeAll vs

end

mutual

/-- How many arrays of a value stand inside each other. -/
def nesting : Value → Nat
  | .array items => nestingAll items + 1
  | _ => 0

/-- How many arrays stand inside each other in any of some values. -/
def nestingAll : List Value → Nat
  | [] => 0
  | v :: vs => max v.nesting (nestingAll vs)

end

/-! ## The form of a value -/

mutual

/-- **The form of a value determines its kind.** -/
theorem ofJson?_toJson (v : Value) : ofJson? v.toJson = some v := by
  cases v with
  | integer n =>
    have hhigh : n.toInt < 0x8000000000000000 := n.toInt_lt
    rw [toJson, Json.integer, ofJson?, if_pos hhigh, Int64.ofInt_toInt]
  | array items =>
    have hitems := ofJsonAll?_toJsonAll items
    rw [toJson, ofJson?, hitems]
    rfl
  | _ => rfl

theorem ofJsonAll?_toJsonAll (vs : List Value) : ofJsonAll? (toJsonAll vs) = some vs := by
  cases vs with
  | nil => rfl
  | cons v vs =>
    have hfirst := ofJson?_toJson v
    have hothers := ofJsonAll?_toJsonAll vs
    rw [toJsonAll, ofJsonAll?, hfirst, hothers]
    rfl

end

/-- An integer of 64 bits is read exactly. -/
theorem exact_integer (n : Int64) : Json.Number.Exact (.integer n.toInt) := by
  have hlow := n.le_toInt
  have hhigh := n.toInt_lt
  show -0x8000000000000000 ≤ n.toInt ∧ n.toInt < 0x10000000000000000
  omega

mutual

theorem plain_toJson (v : Value) {depth : Nat} (hfloat : v.floatFree = true)
    (hdepth : v.nesting ≤ depth) : Json.Plain depth v.toJson := by
  cases v with
  | flag b => exact .flag b
  | integer n => exact .number (exact_integer n)
  | float x => contradiction
  | text s => exact .text s
  | array items =>
    rw [floatFree] at hfloat
    rw [nesting] at hdepth
    -- the array itself takes one from the depth
    obtain ⟨depth, rfl⟩ : ∃ d, depth = d + 1 := ⟨depth - 1, by omega⟩
    exact .array (plain_toJsonAll items hfloat (by omega))

theorem plain_toJsonAll (vs : List Value) {depth : Nat} (hfloat : floatFreeAll vs = true)
    (hdepth : nestingAll vs ≤ depth) : ∀ j ∈ toJsonAll vs, Json.Plain depth j := by
  cases vs with
  | nil => exact fun _ hj => absurd hj List.not_mem_nil
  | cons v vs =>
    rw [floatFreeAll, Bool.and_eq_true] at hfloat
    rw [nestingAll, Nat.max_le] at hdepth
    have hfirst := plain_toJson v hfloat.1 hdepth.1
    have hothers := plain_toJsonAll vs hfloat.2 hdepth.2
    intro j hj
    rcases List.mem_cons.mp hj with rfl | hj
    · exact hfirst
    · exact hothers j hj

end

end Value

/-! ## The form of an annotation -/

theorem ofJson?_toJson (a : Annotation) : ofJson? a.toJson = some a := by
  have hfields : a.toJson.fields "attributes" = (a.attributes.map Value.toJson).entries :=
    Json.fields_of_unlessEmpty (by simp [toJson, Table.lookup_cons])
  unfold ofJson?
  rw [hfields, Table.entries_map, Json.mapM_map_of_inverse]
  · simp [toJson, Json.text?, Table.ofList_entries]
  · intro e
    show (Value.ofJson? e.2.toJson).bind _ = _
    rw [Value.ofJson?_toJson]
    rfl

/-- The values of an annotation stand inside two containers of it. -/
theorem canonical_toJson {depth : Nat} (a : Annotation)
    (h : ∀ e ∈ a.attributes.entries, e.2.floatFree = true ∧ e.2.nesting ≤ depth) :
    Json.Canonical (depth + 2) shape a.toJson := by
  have hattributes : Json.Canonical (depth + 1) (.table .plain)
      (.object (a.attributes.map Value.toJson).entries) := by
    refine .table (a.attributes.map Value.toJson).distinct (List.forall_mem_map.mpr ?_)
    intro e he
    exact .plain (e.2.plain_toJson (h e he).1 (h e he).2)
  unfold toJson
  rw [← List.append_nil (Json.unlessEmpty _ _ _)]
  exact .record (by decide) (.present (.text _) (.unlessEmpty hattributes (by decide) .nil))

end RouteMap.Annotation
