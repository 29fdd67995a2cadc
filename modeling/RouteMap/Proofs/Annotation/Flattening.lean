import Mathlib.Data.List.ReduceOption
import RouteMap.Annotation.Basic
import RouteMap.Proofs.Text.Join

/-!
# Flattened values

A value is flattened array by array, and the texts of each array are joined on their own. The
commas come out as if all parts of the value had been joined at once (`flatten_eq_join_texts`),
but an array without items is a part too: it has no text and still takes its place between the
commas. So the flattened text is that of the leaves if there is no such array, or if one is all
that the value holds, and in no other case (`flatten_eq_join_leaves_iff`).
-/

namespace RouteMap.Annotation.Value

mutual

/-- The texts of the scalars in a value, from left to right. -/
def leaves : Value → List String
  | .flag b => [if b then "true" else "false"]
  | .integer n => [String.ofList (Text.integer n.toInt)]
  | .float x => [String.ofList (Decimal.plainStyle.write x)]
  | .text s => [s]
  | .array items => leavesAll items

/-- The texts of the scalars in some values. -/
def leavesAll : List Value → List String
  | [] => []
  | v :: vs => v.leaves ++ leavesAll vs

end

mutual

/-- The parts of a value, from left to right: the texts of its scalars, and in the place of each
array without items a part that has no text. -/
def parts : Value → List (Option String)
  | .array [] => [none]
  | .array (v :: vs) => v.parts ++ partsAll vs
  | v => v.leaves.map some

/-- The parts of some values. -/
def partsAll : List Value → List (Option String)
  | [] => []
  | v :: vs => v.parts ++ partsAll vs

end

/-! ## Parts and leaves -/

theorem parts_ne_nil (v : Value) : v.parts ≠ [] := by
  cases v with
  | array items =>
    cases items with
    | nil => simp [parts]
    | cons v vs =>
      rw [parts]
      exact List.append_ne_nil_of_left_ne_nil (parts_ne_nil v) _
  | _ => simp [parts, leaves]

mutual

/-- The leaves are the parts that have a text. -/
theorem reduceOption_parts (v : Value) : v.parts.reduceOption = v.leaves := by
  cases v with
  | array items =>
    cases items with
    | nil => rfl
    | cons v vs =>
      rw [parts, leaves, leavesAll, List.reduceOption_append, reduceOption_parts v,
        reduceOption_partsAll vs]
  | _ => rfl

theorem reduceOption_partsAll (vs : List Value) : (partsAll vs).reduceOption = leavesAll vs := by
  cases vs with
  | nil => rfl
  | cons v vs =>
    rw [partsAll, leavesAll, List.reduceOption_append, reduceOption_parts v,
      reduceOption_partsAll vs]

end

/-! ## The flattened text -/

/-- The texts of the parts. A part that has none counts as an empty text. -/
def texts (v : Value) : List String := v.parts.map (·.getD "")

theorem partsAll_eq_flatMap (vs : List Value) : partsAll vs = vs.flatMap parts := by
  induction vs with
  | nil => rfl
  | cons v vs ih => rw [partsAll, ih, List.flatMap_cons]

mutual

/-- **A value is flattened to its parts, joined at once.** -/
theorem flatten_eq_join_texts (v : Value) : v.flatten = Text.join "," v.texts := by
  cases v with
  | array items =>
    cases items with
    | nil => rfl
    | cons v vs =>
      have hgroups : ∀ group ∈ (v :: vs).map texts, group ≠ [] := by
        intro group hgroup
        obtain ⟨w, -, rfl⟩ := List.mem_map.mp hgroup
        simpa [texts] using parts_ne_nil w
      have hflatten : ((v :: vs).map texts).flatten = texts (.array (v :: vs)) := by
        rw [texts, parts, partsAll_eq_flatMap, ← List.flatMap_cons, List.map_flatMap]
        rfl
      rw [flatten, flattenAll_eq_map (v :: vs), Text.join_map_join hgroups, hflatten]
  | _ => exact (Text.join_singleton "," _).symm

theorem flattenAll_eq_map (vs : List Value) :
    flattenAll vs = (vs.map texts).map (Text.join ",") := by
  cases vs with
  | nil => rfl
  | cons v vs =>
    rw [flattenAll, flatten_eq_join_texts v, flattenAll_eq_map vs]
    rfl

end

/-! ## The leaves alone -/

theorem texts_eq_leaves {v : Value} (h : none ∉ v.parts) : v.texts = v.leaves := by
  rw [texts, ← reduceOption_parts]
  generalize v.parts = parts at h
  induction parts with
  | nil => rfl
  | cons part parts ih =>
    obtain ⟨hpart, hparts⟩ := not_or.mp (List.mem_cons.not.mp h)
    cases part with
    | none => exact absurd rfl hpart
    | some text =>
      rw [List.map_cons, ih hparts, List.reduceOption_cons_of_some]
      rfl

/-- A part without text adds nothing but the comma beside it. -/
theorem flatMap_texts (v : Value) :
    v.texts.flatMap String.toList = v.leaves.flatMap String.toList := by
  rw [texts, ← reduceOption_parts]
  induction v.parts with
  | nil => rfl
  | cons part parts ih => cases part <;> simpa using ih

/-- The flattened text is that of the leaves if no array is without items, or if the value is one
such array, however many arrays stand around it. -/
theorem flatten_eq_join_leaves_iff (v : Value) :
    v.flatten = Text.join "," v.leaves ↔ none ∉ v.parts ∨ v.parts = [none] := by
  rw [flatten_eq_join_texts]
  constructor
  · intro h
    have hcomma : ",".length = 1 := rfl
    have hcount : v.texts.length = v.parts.length := List.length_map _
    have hlength := congrArg String.length h
    rw [Text.length_join, Text.length_join, flatMap_texts, hcount, hcomma] at hlength
    by_cases hnone : none ∈ v.parts
    · -- as many commas and yet fewer leaves than parts, so there is no leaf and only one part
      have hfewer := List.reduceOption_length_lt_iff.mpr hnone
      rw [reduceOption_parts] at hfewer
      obtain ⟨part, hpart⟩ := List.length_eq_one_iff.mp (by omega : v.parts.length = 1)
      rw [hpart, List.mem_singleton] at hnone
      exact .inr (by rw [hpart, hnone])
    · exact .inl hnone
  · rintro (hnone | hnone)
    · rw [texts_eq_leaves hnone]
    · rw [texts, ← reduceOption_parts, hnone]
      rfl

/-- **A flattened value is its leaves, joined, unless an array without items stands beside
something.** Such an array takes a place between the commas; if there is none, or nothing else,
the text is that of the leaves, so values that only group the same leaves in other arrays are
flattened to the same text. -/
theorem flatten_joins_leaves (v : Value) :
    v.flatten = Text.join "," v.texts ∧
      (v.flatten = Text.join "," v.leaves ↔ none ∉ v.parts ∨ v.parts = [none]) ∧
      ∀ w : Value, none ∉ v.parts → none ∉ w.parts → v.leaves = w.leaves →
        v.flatten = w.flatten := by
  refine ⟨flatten_eq_join_texts v, flatten_eq_join_leaves_iff v, ?_⟩
  intro w hv hw hleaves
  calc v.flatten = Text.join "," v.leaves := (flatten_eq_join_leaves_iff v).mpr (.inl hv)
    _ = Text.join "," w.leaves := by rw [hleaves]
    _ = w.flatten := ((flatten_eq_join_leaves_iff w).mpr (.inl hw)).symm

/-- An array without items puts a comma in front of the only leaf; two groupings of three leaves
give one text. -/
theorem flatten_joins_leaves_groupings :
    let hollow : Value := .array [.array [], .integer 1]
    let grouped : Value := .array [.array [.integer 2, .integer 1], .text "x"]
    let regrouped : Value := .array [.integer 2, .array [.array [.integer 1, .text "x"]]]
    (hollow.flatten = ",1" ∧ Text.join "," hollow.leaves = "1" ∧
      hollow.flatten ≠ Text.join "," hollow.leaves) ∧
      none ∉ grouped.parts ∧ none ∉ regrouped.parts ∧ grouped.leaves = regrouped.leaves ∧
      grouped.flatten = regrouped.flatten := by
  intro hollow grouped regrouped
  have hgrouped : none ∉ grouped.parts := by decide +kernel
  have hregrouped : none ∉ regrouped.parts := by decide +kernel
  have hleaves : grouped.leaves = regrouped.leaves := rfl
  obtain ⟨hjoin, hiff, -⟩ := flatten_joins_leaves hollow
  obtain ⟨-, -, hsame⟩ := flatten_joins_leaves grouped
  refine ⟨⟨?_, ?_, ?_⟩, hgrouped, hregrouped, hleaves, hsame regrouped hgrouped hregrouped hleaves⟩
  · rw [hjoin]
    decide +kernel
  · decide +kernel
  · rw [Ne, hiff]
    decide +kernel

end RouteMap.Annotation.Value
