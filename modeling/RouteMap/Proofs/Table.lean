import Mathlib.Data.List.Nodup
import RouteMap.Table

/-!
# Entries with distinct names

A search depends neither on the order of the entries (`lookup_perm`) nor on those with
names of another kind (`lookup_filter`), and an entry that is filtered out is not replaced by
another one (`get?_filter`). A table that is built from a list holds the first or the last
entry of each name (`get?_foldl_insertNew`, `get?_foldl_insert`). Whoever reads the entries of
a table one by one meets only new names: each entry is appended to those before it
(`assign_of_not_mem`), so the table that is built from the entries of a table is this table
again (`ofList_entries`).
-/

namespace RouteMap.Table

variable {α : Type}

theorem lookup_eq_none_of_not_mem {l : List (String × α)} {q : String}
    (h : q ∉ l.map Prod.fst) : l.lookup q = none := by
  rw [List.lookup_eq_none_iff]
  intro e he
  have hne : q ≠ e.1 := fun heq => h (heq ▸ List.mem_map_of_mem he)
  simpa using hne

/-- With distinct names the order of the entries does not matter for a search. -/
theorem lookup_perm {l l' : List (String × α)} (hperm : l.Perm l')
    (h : (l.map Prod.fst).Nodup) (q : String) : l.lookup q = l'.lookup q := by
  induction hperm with
  | nil => rfl
  | cons e _ ih =>
    obtain ⟨name, v⟩ := e
    rw [lookup_cons, lookup_cons, ih (List.nodup_cons.mp h).2]
  | swap d e l =>
    obtain ⟨name, v⟩ := d
    obtain ⟨name', v'⟩ := e
    have hne : name' ≠ name := by
      intro heq
      exact (List.nodup_cons.mp h).1 (heq ▸ List.mem_cons_self)
    simp only [lookup_cons]
    by_cases hq : q = name
    · rw [if_pos hq, if_pos hq, if_neg fun hq' => hne (hq'.symm.trans hq)]
    · rw [if_neg hq, if_neg hq]
  | trans hfirst _ ih ih' =>
    exact (ih h).trans (ih' ((hfirst.map Prod.fst).nodup_iff.mp h))

theorem lookup_reverse {l : List (String × α)} (h : (l.map Prod.fst).Nodup) (q : String) :
    l.reverse.lookup q = l.lookup q :=
  (lookup_perm l.reverse_perm.symm h q).symm

/-- A search does not meet the entries whose names are of another kind. -/
theorem lookup_filter (p : String → Bool) {q : String} (h : p q = true)
    (l : List (String × α)) : (l.filter fun e => p e.1).lookup q = l.lookup q := by
  induction l with
  | nil => rfl
  | cons e l ih =>
    obtain ⟨name, v⟩ := e
    by_cases hname : p name = true
    · rw [List.filter_cons_of_pos (by exact hname), lookup_cons, lookup_cons, ih]
    · have hne : q ≠ name := by
        rintro rfl
        exact hname h
      rw [List.filter_cons_of_neg (by exact hname), ih, lookup_cons, if_neg hne]

theorem lookup_filter_of_not (p : String → Bool) {q : String} (h : ¬p q) (l : List (String × α)) :
    (l.filter fun e => p e.1).lookup q = none := by
  apply lookup_eq_none_of_not_mem
  intro hmem
  obtain ⟨e, he, rfl⟩ := List.mem_map.mp hmem
  exact h (List.mem_filter.mp he).2

/-- The entries that satisfy a condition. -/
def filter (p : String → α → Bool) (t : Table α) : Table α where
  entries := t.entries.filter fun e => p e.1 e.2
  distinct := t.distinct.sublist (List.filter_sublist.map Prod.fst)

/-- With distinct names a search finds an entry or, if that is filtered out, nothing. -/
theorem lookup_filter_of_nodup (p : String → α → Bool) {l : List (String × α)}
    (h : (l.map Prod.fst).Nodup) (q : String) :
    (l.filter fun e => p e.1 e.2).lookup q = (l.lookup q).filter (p q) := by
  induction l with
  | nil => rfl
  | cons e l ih =>
    obtain ⟨name, v⟩ := e
    obtain ⟨hnew, hrest⟩ := List.nodup_cons.mp h
    rw [lookup_cons]
    by_cases hq : q = name
    · subst hq
      rw [if_pos rfl, Option.filter_some]
      by_cases hv : p q v = true
      · rw [List.filter_cons_of_pos (by exact hv), lookup_cons, if_pos rfl, if_pos hv]
      · -- no other entry has the name
        rw [List.filter_cons_of_neg (by exact hv), if_neg hv]
        exact lookup_eq_none_of_not_mem fun hmem =>
          hnew ((List.filter_sublist.map Prod.fst).subset hmem)
    · rw [if_neg hq, ← ih hrest]
      by_cases hv : p name v = true
      · rw [List.filter_cons_of_pos (by exact hv), lookup_cons, if_neg hq]
      · rw [List.filter_cons_of_neg (by exact hv)]

theorem get?_filter (p : String → α → Bool) (t : Table α) (q : String) :
    (t.filter p).get? q = (t.get? q).filter (p q) :=
  lookup_filter_of_nodup p t.distinct q

/-- A name that comes behind others with distinct names is not among them. -/
theorem not_mem_of_nodup_append {read l : List (String × α)} {name : String} {v : α}
    (h : ((read ++ (name, v) :: l).map Prod.fst).Nodup) : name ∉ read.map Prod.fst := by
  rw [List.map_append, List.map_cons, List.nodup_middle] at h
  exact fun hmem => (List.nodup_cons.mp h).1 (List.mem_append_left _ hmem)

theorem entries_map {β : Type} (f : α → β) (t : Table α) :
    (t.map f).entries = t.entries.map fun e => (e.1, f e.2) := rfl

/-- With distinct names the entries are what a search finds. -/
theorem mem_entries_iff {t : Table α} {name : String} {v : α} :
    (name, v) ∈ t.entries ↔ t.get? name = some v := by
  constructor
  · intro hmem
    obtain ⟨before, after, hentries⟩ := List.append_of_mem hmem
    have hnew : name ∉ before.map Prod.fst := not_mem_of_nodup_append (hentries ▸ t.distinct)
    unfold get?
    rw [hentries, List.lookup_append, lookup_eq_none_of_not_mem hnew, lookup_cons, if_pos rfl]
    rfl
  · intro h
    obtain ⟨before, after, hentries, -⟩ := List.lookup_eq_some_iff.mp h
    rw [hentries]
    exact List.mem_append_right _ List.mem_cons_self

/-! ## Tables of lists -/

theorem get?_insertNew (t : Table α) (name : String) (v : α) (q : String) :
    (t.insertNew name v).get? q = (t.get? q).or (if q = name then some v else none) := by
  unfold insertNew
  rw [contains_eq_isSome_get?]
  by_cases hq : q = name
  · subst hq
    cases h : t.get? q <;> simp [h, get?_insert]
  · cases h : t.get? name <;> simp [get?_insert, hq]

/-- The first entry of a name counts, behind those of the table. -/
theorem get?_foldl_insertNew (l : List (String × α)) (t : Table α) (q : String) :
    (l.foldl (fun t (name, value) => t.insertNew name value) t).get? q =
      (t.get? q).or (l.lookup q) := by
  induction l generalizing t with
  | nil => exact (Option.or_none ..).symm
  | cons e l ih =>
    obtain ⟨name, v⟩ := e
    rw [List.foldl_cons, ih, get?_insertNew, lookup_cons, Option.or_assoc]
    by_cases hq : q = name <;> simp [hq]

theorem get?_ofListFirst (l : List (String × α)) (q : String) :
    (ofListFirst l).get? q = l.lookup q :=
  get?_foldl_insertNew l empty q

/-- The last entry of a name counts, before those of the table. -/
theorem get?_foldl_insert (l : List (String × α)) (t : Table α) (q : String) :
    (l.foldl (fun t (name, value) => t.insert name value) t).get? q =
      (l.reverse.lookup q).or (t.get? q) := by
  induction l generalizing t with
  | nil => rfl
  | cons e l ih =>
    obtain ⟨name, v⟩ := e
    rw [List.foldl_cons, ih, get?_insert, List.reverse_cons, List.lookup_append, lookup_cons,
      Option.or_assoc]
    by_cases hq : q = name <;> simp [hq]

/-- A new name is appended. -/
theorem assign_of_not_mem {name : String} {v : α} {l : List (String × α)}
    (h : name ∉ l.map Prod.fst) : assign name v l = l ++ [(name, v)] := by
  induction l with
  | nil => rfl
  | cons e l ih =>
    obtain ⟨q, w⟩ := e
    have hne : q ≠ name := fun heq => h (heq ▸ List.mem_cons_self)
    rw [assign, if_neg hne, ih fun hmem => h (List.mem_cons_of_mem _ hmem)]
    rfl

/-- Entries with new names are appended in their order. -/
theorem entries_foldl_insert (l : List (String × α)) (t : Table α)
    (h : ((t.entries ++ l).map Prod.fst).Nodup) :
    (l.foldl (fun t (name, value) => t.insert name value) t).entries = t.entries ++ l := by
  induction l generalizing t with
  | nil => exact (List.append_nil _).symm
  | cons e l ih =>
    obtain ⟨name, v⟩ := e
    have hinsert : (t.insert name v).entries = t.entries ++ [(name, v)] :=
      assign_of_not_mem (not_mem_of_nodup_append h)
    rw [List.foldl_cons, ih (t.insert name v) (by rw [hinsert]; simpa using h), hinsert,
      List.append_assoc]
    rfl

/-- **A table is the table of its entries.** -/
theorem ofList_entries (t : Table α) : ofList t.entries = t :=
  ext (entries_foldl_insert t.entries empty t.distinct)

end RouteMap.Table
