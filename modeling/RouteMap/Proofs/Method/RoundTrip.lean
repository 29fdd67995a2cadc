import RouteMap.Input
import RouteMap.Proofs.Annotation.RoundTrip
import RouteMap.Proofs.Json.Compact

/-!
# Methods that were written

A set of methods is written as compact JSON, in which absent and empty parts are left out.
The set is read back from this text, with everything in its order and every attribute of
its kind (`MethodSet.read_back`). Six containers are open around the value of an attribute:
the set, its list of methods, the method, its list of annotations, the annotation, and the
table of its attributes.
-/

namespace RouteMap

attribute [local simp] List.lookup_append Table.lookup_cons

/-! ## Tags -/

theorem Tag.canonical_toJson (depth : Nat) (t : Tag) :
    Json.Canonical (depth + 1) shape t.toJson :=
  .record (by decide) (.present (.text _) (.present (.text _) .nil))

theorem Tag.ofJson?_toJson (t : Tag) : ofJson? t.toJson = some t := by
  simp [ofJson?, toJson, Json.text?]

/-! ## Methods -/

namespace Method

/-- Every part of a method is found in its JSON form. -/
theorem ofJson?_toJson (m : Method) : ofJson? m.toJson = some m := by
  have htags : (m.toJson.items "tags").mapM Tag.ofJson? = some m.tags :=
    Json.items_of_unlessEmpty Tag.ofJson?_toJson (by simp [toJson])
  have hannotations :
      (m.toJson.items "annotations").mapM Annotation.ofJson? = some m.annotations :=
    Json.items_of_unlessEmpty Annotation.ofJson?_toJson (by simp [toJson])
  unfold ofJson?
  rw [htags, hannotations]
  simp [toJson, Json.text?]

theorem canonical_toJson {depth : Nat} (m : Method)
    (h : ∀ a ∈ m.annotations, ∀ e ∈ a.attributes.entries,
      e.2.floatFree = true ∧ e.2.nesting ≤ depth) :
    Json.Canonical (depth + 4) shape m.toJson := by
  have htags : Json.Canonical (depth + 3) (.list Tag.shape) (.array (m.tags.map Tag.toJson)) :=
    .list_map (Tag.canonical_toJson (depth + 1)) m.tags
  have hannotations : Json.Canonical (depth + 3) (.list Annotation.shape)
      (.array (m.annotations.map Annotation.toJson)) :=
    .list (List.forall_mem_map.mpr fun a ha => a.canonical_toJson (h a ha))
  unfold toJson
  -- nothing stands behind the last field
  rw [← List.append_nil (_ ++ Json.unlessEmpty "annotations" _ _)]
  simp only [List.append_assoc, List.cons_append, List.nil_append]
  refine .record (by decide) ?_
  refine .optional .text m.owner (by decide) (.present (.text _) ?_)
  refine .optional .text m.comment (by decide) ?_
  exact .unlessEmpty htags (by decide) (.unlessEmpty hannotations (by decide) .nil)

end Method

/-! ## Sets of methods -/

namespace MethodSet

theorem ofJson?_toJson (s : MethodSet) : ofJson? s.toJson = some s := by
  have hmethods : (s.toJson.items "methods").mapM Method.ofJson? = some s.methods :=
    Json.items_of_field? Method.ofJson?_toJson (by simp [toJson])
  unfold ofJson?
  rw [hmethods]
  rfl

theorem canonical_toJson {depth : Nat} (s : MethodSet)
    (h : ∀ m ∈ s.methods, ∀ a ∈ m.annotations, ∀ e ∈ a.attributes.entries,
      e.2.floatFree = true ∧ e.2.nesting ≤ depth) :
    Json.Canonical (depth + 6) shape s.toJson := by
  refine .record (by decide) (.present (.list (List.forall_mem_map.mpr ?_)) .nil)
  intro m hm
  exact m.canonical_toJson (h m hm)

/-- **A set of methods is read back as it was written**, if no attribute has a float in it
and none has more than 121 arrays inside each other. -/
theorem read_back (s : MethodSet)
    (h : ∀ m ∈ s.methods, ∀ a ∈ m.annotations, ∀ e ∈ a.attributes.entries,
      e.2.floatFree = true ∧ e.2.nesting ≤ 121) :
    parse s.toJson.compactText = .ok s := by
  -- with the six containers around it, a value may fill the depth of a reader
  have hread : shape.read s.toJson.compactText = .ok s.toJson :=
    Json.Canonical.read_compactText (s.canonical_toJson h)
  have htext : ofText s.toJson.compactText = .ok s :=
    Json.Shape.read_bind_eq_ok hread s.ofJson?_toJson
  unfold parse
  rw [htext]
  rfl

/-- A method whose attributes have texts that look like other kinds, the bounds of the
integers, arrays without items, and as many arrays inside each other as a reader allows. -/
def lookalikes : MethodSet where
  methods :=
    [{ owner := some "com.example.Users"
       name := "list"
       tags := [⟨"@apifest.external", ""⟩, ⟨"apifest.scope", "a \"b\"\\\n"⟩]
       annotations :=
         [{ type := "com.example.Custom"
            attributes := .ofList
              [("number", .text "1"), ("flag", .text "true"), ("low", .integer Int64.minValue),
               ("high", .integer Int64.maxValue), ("none", .array []),
               ("nested", .array [.flag true, .array [.text "null", .integer 0], .array []]),
               ("deep", Nat.repeat (fun v => .array [v]) 121 (.text ""))] },
          { type := "javax.ws.rs.GET" }] },
     { name := "" }]

theorem read_back_lookalikes :
    (∀ m ∈ lookalikes.methods, ∀ a ∈ m.annotations, ∀ e ∈ a.attributes.entries,
      e.2.floatFree = true ∧ e.2.nesting ≤ 121) ∧
    parse lookalikes.toJson.compactText = .ok lookalikes := by
  have h : ∀ m ∈ lookalikes.methods, ∀ a ∈ m.annotations, ∀ e ∈ a.attributes.entries,
      e.2.floatFree = true ∧ e.2.nesting ≤ 121 := by
    decide +kernel
  exact ⟨h, read_back lookalikes h⟩

end MethodSet

end RouteMap
