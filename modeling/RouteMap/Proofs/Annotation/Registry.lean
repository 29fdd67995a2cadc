import Mathlib.Data.Finset.Basic
import Mathlib.Data.Fintype.EquivFin
import RouteMap.Proofs.Annotation.Entries
import RouteMap.Proofs.Json.Fields

/-!
# Registries and their tables

In the table of a registry the empty list stands for all attributes, so a type of which no
attribute is named would come back as one of which all are wanted. No operation builds such
a registry: it names at least one attribute of each type, and none twice (`Built.sound`).
For these registries the table loses nothing (`ofTable_toTable`).
-/

namespace RouteMap.Registry

/-- The registries that can be built by the operations on registries. One that is read from
a document is that of a table. -/
inductive Built : Registry → Prop where
  | empty : Built empty
  | ofText (text : String) : Built (ofText text)
  | ofTable (t : Table (List String)) : Built (ofTable t)
  | withAll {r : Registry} (hr : Built r) (type : String) : Built (r.withAll type)
  | withAttribute {r : Registry} (hr : Built r) (type name : String) :
      Built (r.withAttribute type name)
  | merge {r s : Registry} (hr : Built r) (hs : Built s) : Built (r.merge s)

/-- Of every type that does not have all attributes at least one is named, and none is
named twice. -/
def Sound (r : Registry) : Prop :=
  ∀ type names, r.types.get? type = some (.named names) → names ≠ [] ∧ names.Nodup

/-! ## What the operations preserve -/

theorem sound_empty : Sound empty := by
  intro type names h
  contradiction

/-- **One more entry leaves at least one attribute named, and none twice.** -/
theorem Sound.add {r : Registry} (hr : r.Sound) (e : Entry) : (r.add e).Sound := by
  intro type names h
  rw [get?_add] at h
  split at h
  · obtain ⟨added, -, ⟨-, rfl⟩ | ⟨before, hbefore, rfl⟩⟩ :=
      Selection.extend_eq_named (Option.some.inj h)
    · exact ⟨List.cons_ne_nil _ _, List.nodup_singleton added⟩
    · obtain ⟨hne, hnodup⟩ := hr type before hbefore
      split
      · exact ⟨hne, hnodup⟩
      · next hnew =>
        rw [← List.concat_eq_append]
        exact ⟨by simp, hnodup.concat hnew⟩
  · exact hr type names h

theorem Sound.addAll {r : Registry} (hr : r.Sound) (es : List Entry) : (r.addAll es).Sound :=
  List.foldlRecOn es _ hr fun _ h e _ => h.add e

theorem Sound.merge {r : Registry} (hr : r.Sound) (s : Registry) : (r.merge s).Sound := by
  rw [merge_eq_addAll]
  exact hr.addAll s.entries

/-- **No operation builds a type without attributes, or with one of them twice.** -/
theorem Built.sound {r : Registry} (h : r.Built) : r.Sound := by
  induction h with
  | empty => exact sound_empty
  | ofText text =>
    rw [ofText_eq_addAll]
    exact sound_empty.addAll _
  | ofTable t =>
    rw [ofTable_eq_merge]
    exact sound_empty.merge _
  | withAll _ type ih => exact ih.add (type, none)
  | withAttribute _ type name ih => exact ih.add (type, some name)
  | merge _ _ ih _ => exact ih.merge _

/-! ## Merged registries -/

theorem Sound.ne_named_nil {r : Registry} (h : r.Sound) (type : String) :
    r.types.get? type ≠ some (.named []) :=
  fun hempty => (h type [] hempty).1 rfl

theorem names_merge {s : Registry} (hs : ∀ type, s.types.get? type ≠ some (.named []))
    (r : Registry) :
    (r.merge s).types.names =
      r.types.names ++ s.types.names.filter fun type => type ∉ r.types.names := by
  rw [merge_eq_addAll, names_addAll, eraseDups_entries hs]

theorem get?_merge (r s : Registry) (type : String) :
    (r.merge s).types.get? type =
      Selection.extendAll (r.types.get? type) (Selection.given (s.types.get? type)) := by
  rw [merge_eq_addAll, get?_addAll, ofType_entries]

/-! ## The way through the table -/

theorem names_ofTable (t : Table (List String)) : (ofTable t).types.names = t.names := by
  have hne : ∀ type, (Registry.mk (t.map Selection.ofList)).types.get? type ≠
      some (.named []) := by
    intro type h
    obtain ⟨names, -, hnames⟩ := Option.map_eq_some_iff.mp ((Table.get?_map _ t type).symm.trans h)
    exact Selection.ofList_ne_named_nil names hnames
  rw [ofTable_eq_merge, names_merge hne]
  exact (List.filter_eq_self.mpr fun _ _ => rfl).trans (Table.names_map _ t)

theorem get?_ofTable (t : Table (List String)) (type : String) :
    (ofTable t).types.get? type =
      (t.get? type).map fun names => Selection.ofList names.eraseDups := by
  rw [ofTable_eq_merge, get?_merge]
  show Selection.extendAll none (Selection.given ((t.map Selection.ofList).get? type)) = _
  rw [Table.get?_map]
  cases t.get? type with
  | none => rfl
  | some names => exact Selection.extendAll_given_ofList names

/-- **A table comes back from its registry, less what its lists repeat.** -/
theorem toTable_ofTable (t : Table (List String)) :
    (ofTable t).toTable = t.map List.eraseDups := by
  apply Table.eq_of_get?
  · rw [toTable, Table.names_map, names_ofTable, Table.names_map]
  · intro type
    rw [toTable, Table.get?_map, get?_ofTable, Table.get?_map, Option.map_map]
    congr 1
    funext names
    exact Selection.toList_ofList names.eraseDups

/-- **A sound registry is the registry of its table.** -/
theorem ofTable_toTable {r : Registry} (h : r.Sound) : ofTable r.toTable = r := by
  apply eq_of_get?
  · rw [names_ofTable, toTable, Table.names_map]
  · intro type
    rw [get?_ofTable, toTable, Table.get?_map, Option.map_map]
    cases hs : r.types.get? type with
    | none => rfl
    | some s =>
      have hnodup : s.toList.Nodup := by
        cases s with
        | all => exact List.nodup_nil
        | named names => exact (h type names hs).2
      have hne : s ≠ .named [] := fun heq => h.ne_named_nil type (heq ▸ hs)
      rw [Option.map_some, Function.comp_apply, Table.eraseDups_of_nodup hnodup,
        Selection.ofList_toList hne]

/-! ## All attributes -/

/-- Some attribute is missing from every list. -/
theorem selects_all_iff (r : Registry) (type : String) :
    (∀ name, r.selects type name = true) ↔ r.types.get? type = some .all := by
  simp only [selects_iff_wants]
  match r.types.get? type with
  | none => simp [Selection.Wants]
  | some .all => simp [Selection.Wants]
  | some (.named names) =>
    obtain ⟨name, hname⟩ := Infinite.exists_notMem_finset names.toFinset
    have hmissing : ¬∀ name, name ∈ names := fun h => hname (List.mem_toFinset.mpr (h name))
    simpa [Selection.Wants] using hmissing

theorem get?_toTable_eq_nil_iff {r : Registry} (h : r.Sound) (type : String) :
    r.toTable.get? type = some [] ↔ r.types.get? type = some .all := by
  rw [toTable, Table.get?_map, Option.map_eq_some_iff]
  constructor
  · rintro ⟨s, hs, hnil⟩
    cases s with
    | all => exact hs
    | named names => exact absurd hnil (h type names hs).1
  · intro hall
    exact ⟨.all, hall, rfl⟩

/-- **A registry and its table say the same.** A registry that the operations build has distinct
types, of each at least one attribute unless all are wanted, and none twice. So it comes back from
its table, in which a type has the empty list if and only if all its attributes are wanted; and any
table comes back from its registry with each attribute where its list has it first. -/
theorem table_faithful {r : Registry} (hr : r.Built) (t : Table (List String)) :
    (r.types.entries.map Prod.fst).Nodup ∧
      (∀ type names, (type, .named names) ∈ r.types.entries → names ≠ [] ∧ names.Nodup) ∧
      ofTable r.toTable = r ∧
      (∀ type, (r.toTable.get? type = some [] ↔ r.types.get? type = some .all) ∧
        (r.toTable.get? type = some [] ↔ ∀ name, r.selects type name = true)) ∧
      (ofTable t).toTable = t.map List.eraseDups := by
  refine ⟨r.types.distinct, ?_, ofTable_toTable hr.sound, ?_, toTable_ofTable t⟩
  · intro type names hmem
    exact hr.sound type names (Table.mem_entries_iff.mp hmem)
  · intro type
    have hnil := get?_toTable_eq_nil_iff hr.sound type
    exact ⟨hnil, hnil.trans (selects_all_iff r type).symm⟩

/-- A registry from a table and a text, and a table with a list that repeats an attribute. -/
theorem table_faithful_limits :
    let limits := (Table.empty.insert "a.Limit" ["max", "unit", "max"]).insert "a.Cached" []
    let r := (ofTable limits).merge (ofText "a.Cached:seconds, b.Scope:name, a.Limit:burst")
    r.Built ∧ ofTable r.toTable = r ∧
      r.toTable.entries =
        [("a.Limit", ["max", "unit", "burst"]), ("a.Cached", []), ("b.Scope", ["name"])] ∧
      (∀ name, r.selects "a.Cached" name = true) ∧
      (ofTable limits).toTable.entries = [("a.Limit", ["max", "unit"]), ("a.Cached", [])] := by
  intro limits r
  have hr : r.Built := (Built.ofTable limits).merge (.ofText _)
  obtain ⟨-, -, hback, hall, htable⟩ := table_faithful hr limits
  have hentries : r.toTable.entries =
      [("a.Limit", ["max", "unit", "burst"]), ("a.Cached", []), ("b.Scope", ["name"])] := by
    decide +kernel
  have hnil : r.toTable.get? "a.Cached" = some [] := by
    rw [Table.get?, hentries]
    rfl
  refine ⟨hr, hback, hentries, (hall "a.Cached").2.mp hnil, ?_⟩
  rw [htable]
  decide +kernel

/-! ## The JSON form -/

theorem ofJson?_toJson {r : Registry} (h : r.Sound) : ofJson? r.toJson = some r := by
  unfold ofJson? toJson
  rw [Json.asObject?, Option.bind_eq_bind, Option.bind_some, Table.entries_map,
    Json.mapM_map_of_inverse]
  · show some (ofTable (.ofList r.toTable.entries)) = _
    rw [Table.ofList_entries, ofTable_toTable h]
  · intro row
    show ((row.2.map Json.string).mapM Json.asString?).bind _ = _
    rw [Json.mapM_map_of_inverse (f := Json.string) fun _ => rfl]
    rfl

theorem canonical_toJson (depth : Nat) (r : Registry) :
    Json.Canonical (depth + 2) shape r.toJson := by
  refine .table (Table.distinct _) (List.forall_mem_map.mpr ?_)
  intro row _
  exact .list_map .text row.2

end RouteMap.Registry
