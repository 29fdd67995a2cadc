import Mathlib.Data.List.Basic
import RouteMap.Config.Outputs
import RouteMap.Proofs.Text.Lines
import RouteMap.Proofs.Text.Trim

/-!
# Lists of outputs

A list of outputs is read item by item; blanks around an item do not count, and a blank item says
nothing. What each step keeps is `FirstMentions`: the outputs so far are those that the items so far
mention, in the order in which they are mentioned first (`add_items`). So a list is read exactly if
all its items are usable (`listOf_eq_ok_iff`), and otherwise the first one that is not is reported
(`listOf_eq_error_iff`). The items determine the outputs and their order (`FirstMentions.unique`),
so the names of outputs are read as these outputs (`listOf_join_names`).
-/

namespace RouteMap.Output

open Text (trimmed)

/-! ## Names -/

/-- An item that a list can have: a blank one, or the name of an output. -/
def Usable (item : String) : Prop := item = "" ∨ item = "mapping" ∨ item = "doc"

instance (item : String) : Decidable (Usable item) :=
  inferInstanceAs (Decidable (item = "" ∨ item = "mapping" ∨ item = "doc"))

theorem ofName?_name (o : Output) : ofName? o.name = some o := by cases o <;> decide

theorem name_ne_empty (o : Output) : o.name ≠ "" := by cases o <;> decide

theorem trimmed_name (o : Output) : trimmed o.name = o.name := by cases o <;> decide

theorem comma_not_mem_name (o : Output) : ',' ∉ o.name.toList := by cases o <;> decide

theorem name_inj {o o' : Output} (h : o.name = o'.name) : o = o' := by
  have hname := ofName?_name o
  rw [h, ofName?_name] at hname
  exact (Option.some.inj hname).symm

theorem usable_iff (item : String) : Usable item ↔ item = "" ∨ ∃ o : Output, item = o.name := by
  constructor
  · rintro (rfl | rfl | rfl)
    · exact .inl rfl
    · exact .inr ⟨mapping, rfl⟩
    · exact .inr ⟨documentation, rfl⟩
  · rintro (rfl | ⟨o, rfl⟩)
    · exact .inl rfl
    · cases o
      · exact .inr (.inl rfl)
      · exact .inr (.inr rfl)

theorem usable_name (o : Output) : Usable o.name := (usable_iff _).mpr (.inr ⟨o, rfl⟩)

theorem ofText_of_name {text : String} {o : Output} (h : trimmed text = o.name) :
    ofText text = .ok o := by
  rw [ofText, h, ofName?_name]

theorem ofText_of_not_usable {text : String} (h : ¬ Usable (trimmed text)) :
    ofText text = .error (.unknownOutput (trimmed text)) := by
  unfold ofText
  split
  · next o ho =>
    have hname : o.name = trimmed text := by simpa using List.find?_some ho
    rw [← hname] at h
    exact absurd (usable_name o) h
  · rfl

/-! ## First mentions -/

/-- The outputs that some items mention, in the order in which they are mentioned first. -/
structure FirstMentions (items : List String) (os : List Output) : Prop where
  mem_iff (o : Output) : o ∈ os ↔ o.name ∈ items
  ordered : os.Pairwise fun o o' => items.idxOf o.name < items.idxOf o'.name

namespace FirstMentions

variable {items : List String} {os : List Output}

theorem nil : FirstMentions [] [] := ⟨by simp, .nil⟩

theorem nodup (h : FirstMentions items os) : os.Nodup := by
  refine h.ordered.imp ?_
  rintro o o' hlt rfl
  exact Nat.lt_irrefl _ hlt

/-- More items do not change the order of what was mentioned before them. -/
theorem ordered_append (h : FirstMentions items os) (more : List String) :
    os.Pairwise fun o o' =>
      (items ++ more).idxOf o.name < (items ++ more).idxOf o'.name := by
  refine h.ordered.imp_of_mem ?_
  intro o o' ho ho' hlt
  rwa [List.idxOf_append_of_mem ((h.mem_iff o).mp ho),
    List.idxOf_append_of_mem ((h.mem_iff o').mp ho')]

theorem concat_blank (h : FirstMentions items os) : FirstMentions (items ++ [""]) os where
  mem_iff o := by simp [h.mem_iff, name_ne_empty]
  ordered := h.ordered_append [""]

/-- The name of an output mentions it first, unless it was mentioned before. -/
theorem concat_name (h : FirstMentions items os) (o : Output) :
    FirstMentions (items ++ [o.name]) (if os.contains o then os else os ++ [o]) := by
  split
  · next hold =>
    have hmem : o.name ∈ items := (h.mem_iff o).mp (List.contains_iff_mem.mp hold)
    refine ⟨fun o' => ?_, h.ordered_append _⟩
    rw [h.mem_iff, List.mem_append, List.mem_singleton]
    constructor
    · exact .inl
    · rintro (hmem' | hname)
      · exact hmem'
      · rwa [hname]
  · next hnew =>
    have hnot : o.name ∉ items :=
      fun hmem => hnew (List.contains_iff_mem.mpr ((h.mem_iff o).mpr hmem))
    refine ⟨fun o' => ?_, ?_⟩
    · rw [List.mem_append, List.mem_append, h.mem_iff, List.mem_singleton, List.mem_singleton]
      exact or_congr_right ⟨congrArg Output.name, name_inj⟩
    · refine List.pairwise_append.mpr ⟨h.ordered_append _, List.pairwise_singleton _ _, ?_⟩
      intro o' ho' last hlast
      obtain rfl := List.mem_singleton.mp hlast
      have hmem := (h.mem_iff o').mp ho'
      -- what was mentioned stands among the items before, this one behind all of them
      rw [List.idxOf_append_of_mem hmem, List.idxOf_append_of_notMem hnot]
      exact Nat.lt_add_right _ (List.idxOf_lt_length_of_mem hmem)

/-- The items determine the outputs and their order. -/
theorem unique {os' : List Output} (h : FirstMentions items os) (h' : FirstMentions items os') :
    os = os' := by
  have hperm : os.Perm os' := by
    rw [List.perm_ext_iff_of_nodup h.nodup h'.nodup]
    exact fun o => (h.mem_iff o).trans (h'.mem_iff o).symm
  exact hperm.eq_of_pairwise (fun _ _ _ _ hlt hgt => absurd hgt (Nat.lt_asymm hlt))
    h.ordered h'.ordered

/-- Outputs without repetitions are mentioned by their names in their own order. -/
theorem map_name (h : os.Nodup) : FirstMentions (os.map Output.name) os := by
  induction os using List.reverseRecOn with
  | nil => exact nil
  | append_singleton os o ih =>
    obtain ⟨hos, -, hdisjoint⟩ := List.nodup_append.mp h
    have hnew : ¬ os.contains o = true := fun hold =>
      hdisjoint o (List.contains_iff_mem.mp hold) o List.mem_cons_self rfl
    have hlast := (ih hos).concat_name o
    rw [if_neg hnew] at hlast
    rwa [List.map_append]

/-- Usable items mention nothing only if all are blank. -/
theorem eq_nil_iff (h : FirstMentions items os) (husable : ∀ item ∈ items, Usable item) :
    os = [] ↔ ∀ item ∈ items, item = "" := by
  constructor
  · rintro rfl item hitem
    rcases (usable_iff item).mp (husable item hitem) with hblank | ⟨o, rfl⟩
    · exact hblank
    · exact absurd ((h.mem_iff o).mpr hitem) List.not_mem_nil
  · intro hblank
    rw [List.eq_nil_iff_forall_not_mem]
    intro o ho
    exact name_ne_empty o (hblank _ ((h.mem_iff o).mp ho))

end FirstMentions

/-! ## Reading items -/

/-- Items are read up to the first one that is not usable. If there is none, the outputs of the
items before and of these are the outputs that all of them mention. -/
theorem add_items {done items : List String} {before : List Output} (h : FirstMentions done before)
    (htrim : ∀ item ∈ items, trimmed item = item) :
    match items.find? (¬ Usable ·) with
    | some item => add before (items.filter (!·.isEmpty)) = .error (.unknownOutput item)
    | none => ∃ os, add before (items.filter (!·.isEmpty)) = .ok os ∧
        FirstMentions (done ++ items) os := by
  induction items generalizing done before with
  | nil => exact ⟨before, rfl, by simpa using h⟩
  | cons item items ih =>
    obtain ⟨hitem, hitems⟩ := List.forall_mem_cons.mp htrim
    by_cases husable : Usable item
    · rw [List.find?_cons_of_neg (by simpa using husable), List.append_cons]
      rcases (usable_iff item).mp husable with rfl | ⟨o, rfl⟩
      · -- a blank item is passed over
        exact ih h.concat_blank hitems
      · have hnonempty : (!o.name.isEmpty) = true := by simpa using name_ne_empty o
        simp only [List.filter_cons, hnonempty, if_true, add, ofText_of_name hitem]
        exact ih (h.concat_name o) hitems
    · have hnonempty : (!item.isEmpty) = true := by
        by_contra hempty
        exact husable (.inl (by simpa using hempty))
      have hread := ofText_of_not_usable (hitem.symm ▸ husable)
      rw [List.find?_cons_of_pos (by simpa using husable)]
      simp only [List.filter_cons, hnonempty, if_true, add, hread, hitem]

/-- The items of a list between commas, without the blanks around them. -/
def itemsOf (text : String) : List String := (Text.piecesOf ',' text).map trimmed

theorem trimmed_of_mem_itemsOf {text item : String} (h : item ∈ itemsOf text) :
    trimmed item = item := by
  obtain ⟨piece, -, rfl⟩ := List.mem_map.mp h
  rw [trimmed, Text.toList_trimmed, Text.trim_trim, trimmed]

section

variable {text : String} {os : List Output}

theorem add_itemsOf (text : String) :
    match (itemsOf text).find? (¬ Usable ·) with
    | some item => add [] (names text) = .error (.unknownOutput item)
    | none => ∃ os, add [] (names text) = .ok os ∧ FirstMentions (itemsOf text) os :=
  add_items .nil fun _ => trimmed_of_mem_itemsOf

theorem listOf_of_find? {item : String} (h : (itemsOf text).find? (¬ Usable ·) = some item) :
    listOf text = .error (.unknownOutput item) := by
  have hadd := add_itemsOf text
  rw [h] at hadd
  rw [listOf, hadd]

/-- Usable items come to the outputs that they mention, or to the mapping if they mention none. -/
theorem listOf_of_usable (h : ∀ item ∈ itemsOf text, Usable item) :
    ∃ os, FirstMentions (itemsOf text) os ∧
      listOf text = .ok (if os = [] then [mapping] else os) := by
  have hadd := add_itemsOf text
  have hnone : (itemsOf text).find? (¬ Usable ·) = none := by simpa using h
  rw [hnone] at hadd
  obtain ⟨os, hadd, hos⟩ := hadd
  refine ⟨os, hos, ?_⟩
  rw [listOf, hadd]
  cases os <;> rfl

/-- A list is read if all its items are usable. If all are blank it stands for the mapping, and
otherwise for the outputs that it mentions. -/
theorem listOf_eq_ok_iff :
    listOf text = .ok os ↔ (∀ item ∈ itemsOf text, Usable item) ∧
      ((∀ item ∈ itemsOf text, item = "") ∧ os = [mapping] ∨
        (∃ item ∈ itemsOf text, item ≠ "") ∧ FirstMentions (itemsOf text) os) := by
  by_cases husable : ∀ item ∈ itemsOf text, Usable item
  · obtain ⟨mentioned, hmentioned, hread⟩ := listOf_of_usable husable
    have hnil := hmentioned.eq_nil_iff husable
    rw [hread, and_iff_right husable]
    by_cases hblank : ∀ item ∈ itemsOf text, item = ""
    · have hnone : ¬ ∃ item ∈ itemsOf text, item ≠ "" := by simpa using hblank
      rw [if_pos (hnil.mpr hblank), and_iff_right hblank, or_iff_left fun h => hnone h.1]
      exact ⟨fun h => (Except.ok.inj h).symm, fun h => congrArg _ h.symm⟩
    · have hsome : ∃ item ∈ itemsOf text, item ≠ "" := by simpa using hblank
      rw [if_neg (hnil.not.mpr hblank)]
      constructor
      · intro h
        obtain rfl := Except.ok.inj h
        exact .inr ⟨hsome, hmentioned⟩
      · rintro (⟨hall, -⟩ | ⟨-, hos⟩)
        · exact absurd hall hblank
        · exact congrArg _ (hmentioned.unique hos)
  · cases hfind : (itemsOf text).find? (¬ Usable ·) with
    | none => exact absurd (by simpa using hfind) husable
    | some item =>
      rw [listOf_of_find? hfind]
      constructor
      · intro h
        cases h
      · rintro ⟨h, -⟩
        exact absurd h husable

theorem listOf_eq_error_iff {cause : ConfigError} :
    listOf text = .error cause ↔
      ∃ item, (itemsOf text).find? (¬ Usable ·) = some item ∧ cause = .unknownOutput item := by
  cases hfind : (itemsOf text).find? (¬ Usable ·) with
  | none =>
    have husable : ∀ item ∈ itemsOf text, Usable item := by simpa using hfind
    obtain ⟨os, -, hread⟩ := listOf_of_usable husable
    rw [hread]
    constructor
    · intro h
      cases h
    · rintro ⟨item, h, -⟩
      cases h
  | some item =>
    rw [listOf_of_find? hfind]
    constructor
    · intro h
      exact ⟨item, rfl, (Except.error.inj h).symm⟩
    · rintro ⟨_, h, rfl⟩
      rw [Option.some.inj h]

example : listOf " doc ,, mapping,doc" = .ok [documentation, mapping] ∧
    listOf "mapping, xml ,pdf" = .error (.unknownOutput "xml") := by
  decide

theorem ne_nil_of_listOf (h : listOf text = .ok os) : os ≠ [] := by
  obtain ⟨husable, ⟨-, rfl⟩ | ⟨hsome, hos⟩⟩ := listOf_eq_ok_iff.mp h
  · exact List.cons_ne_nil _ _
  · rw [Ne, hos.eq_nil_iff husable]
    simpa using hsome

theorem nodup_of_listOf (h : listOf text = .ok os) : os.Nodup := by
  obtain ⟨-, ⟨-, rfl⟩ | ⟨-, hos⟩⟩ := listOf_eq_ok_iff.mp h
  · exact List.pairwise_singleton _ _
  · exact hos.nodup

/-! ## Writing lists -/

/-- The items of names with commas between them are the names. -/
theorem itemsOf_join_names (h : os ≠ []) :
    itemsOf (Text.join "," (os.map name)) = os.map name := by
  have hcomma : ∀ s ∈ os.map name, ',' ∉ s.toList := by
    intro s hs
    obtain ⟨o, -, rfl⟩ := List.mem_map.mp hs
    exact comma_not_mem_name o
  rw [itemsOf, Text.piecesOf_join_of_not_mem rfl (by simpa using h) hcomma]
  simp [trimmed_name]

/-- Outputs are read back from their names. -/
theorem listOf_join_names (hne : os ≠ []) (h : os.Nodup) :
    listOf (Text.join "," (os.map name)) = .ok os := by
  have husable : ∀ item ∈ os.map name, Usable item := by
    intro item hitem
    obtain ⟨o, -, rfl⟩ := List.mem_map.mp hitem
    exact usable_name o
  obtain ⟨o, ho⟩ := List.exists_mem_of_ne_nil os hne
  rw [listOf_eq_ok_iff, itemsOf_join_names hne]
  exact ⟨husable, .inr ⟨⟨o.name, List.mem_map_of_mem ho, name_ne_empty o⟩, .map_name h⟩⟩

end

end RouteMap.Output
