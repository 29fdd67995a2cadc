import RouteMap.Proofs.Table

/-!
# Names and updates of tables

A table that is built entry by entry has its names in the order in which they first occur,
whether the first value of a name counts or the last one (`names_ofList`, `names_ofListFirst`).
Names and values together are the table (`eq_of_get?`). So entries of another kind may be left
out before the table is built (`filter_ofListFirst`). Assigning values one by one, each to the table
that the last one left, comes to one update in which the known names keep their places and the new
ones follow (`foldl_insert_eq_update`); where known names keep their values too, the table is only
extended (`foldl_insertNew_eq_extend`).
-/

namespace RouteMap.Table

variable {α : Type}

/-! ## Names in the order of their first occurrence -/

/-- What satisfies a condition occurs first where it occurs first among its like. -/
theorem eraseDups_filter (p : String → Bool) (l : List String) :
    (l.filter p).eraseDups = l.eraseDups.filter p := by
  match l with
  | [] => rfl
  | name :: l =>
    have hlength : (l.filter fun q => !q == name).length < l.length + 1 :=
      Nat.lt_succ_of_le (List.length_filter_le _ _)
    have ih := eraseDups_filter p (l.filter fun q => !q == name)
    rw [List.eraseDups_cons]
    by_cases hp : p name = true
    · rw [List.filter_cons_of_pos hp, List.filter_cons_of_pos hp, List.eraseDups_cons, ← ih,
        List.filter_filter, List.filter_filter]
      simp only [Bool.and_comm]
    · -- the name itself does not satisfy the condition, so it need not be dropped
      have hne : ∀ q ∈ l, p q = (p q && !q == name) := by
        intro q _
        by_cases hq : q = name
        · simp [hq, hp]
        · simp [hq]
      rw [List.filter_cons_of_neg hp, List.filter_cons_of_neg hp, ← ih, List.filter_filter,
        List.filter_congr hne]
termination_by l.length

theorem eraseDups_of_nodup {l : List String} (h : l.Nodup) : l.eraseDups = l := by
  induction l with
  | nil => rfl
  | cons name l ih =>
    obtain ⟨hname, hl⟩ := List.nodup_cons.mp h
    have hall : ∀ q ∈ l, (!q == name) = true := by
      intro q hq
      simpa using fun heq : q = name => hname (heq ▸ hq)
    rw [List.eraseDups_cons, List.filter_eq_self.mpr hall, ih hl]

/-- Rows that are written out value by value have their names in the order of the rows. -/
theorem eraseDups_rows {β : Type} (values : α → List β) {l : List (String × α)}
    (hl : (l.map Prod.fst).Nodup) (h : ∀ e ∈ l, values e.2 ≠ []) :
    ((l.flatMap fun e => (values e.2).map fun v => (e.1, v)).map Prod.fst).eraseDups =
      l.map Prod.fst := by
  induction l with
  | nil => rfl
  | cons e l ih =>
    obtain ⟨name, x⟩ := e
    obtain ⟨hnew, hrest⟩ := List.nodup_cons.mp hl
    obtain ⟨hx, hothers⟩ := List.forall_mem_cons.mp h
    obtain ⟨v, vs, hvalues⟩ := List.exists_cons_of_ne_nil hx
    have hrow : ∀ q ∈ (vs.map fun v => (name, v)).map Prod.fst, ¬(!q == name) = true := by
      simp
    have hrows : ∀ q ∈ (l.flatMap fun e => (values e.2).map fun v => (e.1, v)).map Prod.fst,
        (!q == name) = true := by
      intro q hq
      have hmem : q ∈ l.map Prod.fst := by
        rw [← ih hrest hothers]
        exact List.mem_eraseDups.mpr hq
      simpa using fun heq : q = name => hnew (heq ▸ hmem)
    rw [List.flatMap_cons, hvalues, List.map_cons, List.cons_append, List.map_cons,
      List.eraseDups_cons, List.map_append, List.filter_append, List.filter_eq_nil_iff.mpr hrow,
      List.filter_eq_self.mpr hrows, List.nil_append, ih hrest hothers, List.map_cons]

/-- Names that are appended one by one, unless they are there, come as they first occur. -/
theorem foldl_append_new (l seen : List String) :
    l.foldl (fun seen name => if name ∈ seen then seen else seen ++ [name]) seen =
      seen ++ l.eraseDups.filter fun name => name ∉ seen := by
  induction l generalizing seen with
  | nil => simp
  | cons name l ih =>
    rw [List.foldl_cons, ih, List.eraseDups_cons, eraseDups_filter]
    by_cases hname : name ∈ seen
    · rw [if_pos hname, List.filter_cons_of_neg (by simpa using hname), List.filter_filter]
      congr 1
      apply List.filter_congr
      intro q _
      by_cases hq : q = name
      · simp [hq, hname]
      · simp [hq]
    · rw [if_neg hname, List.filter_cons_of_pos (by simpa using hname), List.filter_filter,
        List.append_assoc, List.singleton_append]
      congr 2
      apply List.filter_congr
      intro q _
      by_cases hq : q = name <;> simp [hq]

/-- Steps that append a name unless it is there append new names as they first occur. -/
theorem names_foldl {σ β : Type} (names : σ → List String) {step : σ → String × β → σ}
    (hstep : ∀ s e, names (step s e) = if e.1 ∈ names s then names s else names s ++ [e.1])
    (l : List (String × β)) (s : σ) :
    names (l.foldl step s) =
      names s ++ (l.map Prod.fst).eraseDups.filter fun name => name ∉ names s := by
  rw [← foldl_append_new, List.foldl_map]
  induction l generalizing s with
  | nil => rfl
  | cons e l ih => rw [List.foldl_cons, List.foldl_cons, ih, hstep]

theorem names_ofList (l : List (String × α)) : (ofList l).names = (l.map Prod.fst).eraseDups := by
  rw [ofList, names_foldl names fun t e => names_insert t e.1 e.2]
  exact List.filter_eq_self.mpr fun _ _ => rfl

theorem names_insertNew (t : Table α) (name : String) (v : α) :
    (t.insertNew name v).names = if name ∈ t.names then t.names else t.names ++ [name] := by
  by_cases hname : name ∈ t.names
  · have hcontains : t.contains name = true := List.contains_iff_mem.mpr hname
    rw [insertNew, if_pos hcontains, if_pos hname]
  · have hcontains : ¬ t.contains name = true := fun h => hname (List.contains_iff_mem.mp h)
    rw [insertNew, if_neg hcontains, names_insert]

theorem names_ofListFirst (l : List (String × α)) :
    (ofListFirst l).names = (l.map Prod.fst).eraseDups := by
  rw [ofListFirst, names_foldl names fun t e => names_insertNew t e.1 e.2]
  exact List.filter_eq_self.mpr fun _ _ => rfl

/-! ## Tables by their names and values -/

theorem entries_eq_filterMap_names (t : Table α) :
    t.entries = t.names.filterMap fun name => (t.get? name).map fun v => (name, v) := by
  have hentry : ∀ e ∈ t.entries, ((t.get? e.1).map fun v => (e.1, v)) = some e := by
    rintro ⟨name, v⟩ he
    rw [mem_entries_iff.mp he]
    rfl
  rw [names, List.filterMap_map]
  exact ((List.filterMap_congr hentry).trans List.filterMap_some).symm

/-- Two tables with the same names in the same order and the same values are one table. -/
theorem eq_of_get? {t u : Table α} (hnames : t.names = u.names)
    (hget : ∀ name, t.get? name = u.get? name) : t = u := by
  apply ext
  rw [entries_eq_filterMap_names, entries_eq_filterMap_names, hnames]
  simp only [hget]

theorem mem_names_of_get? {t : Table α} {name : String} {v : α} (h : t.get? name = some v) :
    name ∈ t.names :=
  List.mem_map_of_mem (mem_entries_iff.mpr h)

/-- To give a name the value that it has changes nothing. -/
theorem insert_eq_self {t : Table α} {name : String} {v : α} (h : t.get? name = some v) :
    t.insert name v = t := by
  apply eq_of_get?
  · rw [names_insert, if_pos (mem_names_of_get? h)]
  · intro q
    rw [get?_insert]
    split
    · next hq => rw [hq, h]
    · rfl

theorem lookup_map_values {β : Type} (f : String → α → β) (l : List (String × α)) (q : String) :
    (l.map fun e => (e.1, f e.1 e.2)).lookup q = (l.lookup q).map (f q) := by
  induction l with
  | nil => rfl
  | cons e l ih =>
    obtain ⟨name, v⟩ := e
    rw [List.map_cons, lookup_cons, lookup_cons, ih]
    by_cases hq : q = name <;> simp [hq]

theorem get?_map {β : Type} (f : α → β) (t : Table α) (q : String) :
    (t.map f).get? q = (t.get? q).map f :=
  lookup_map_values (fun _ => f) t.entries q

theorem names_map {β : Type} (f : α → β) (t : Table α) : (t.map f).names = t.names := by
  rw [names, entries_map, List.map_map]
  rfl

/-- A list with distinct names is the list of entries of its table. -/
theorem ofListFirst_of_nodup {l : List (String × α)} (h : (l.map Prod.fst).Nodup) :
    ofListFirst l = ⟨l, h⟩ := by
  apply eq_of_get?
  · rw [names_ofListFirst]
    exact eraseDups_of_nodup h
  · exact get?_ofListFirst l

/-- Names of another kind may be left out before the table is built or afterwards. -/
theorem filter_ofListFirst (p : String → Bool) (l : List (String × α)) :
    (ofListFirst l).filter (fun name _ => p name) = ofListFirst (l.filter fun e => p e.1) := by
  apply eq_of_get?
  · have hnames : ((ofListFirst l).filter fun name _ => p name).names =
        (ofListFirst l).names.filter p := by
      rw [names, names, List.filter_map]
      rfl
    have hfilter : (l.filter fun e => p e.1).map Prod.fst = (l.map Prod.fst).filter p := by
      rw [List.filter_map]
      rfl
    rw [hnames, names_ofListFirst, names_ofListFirst, hfilter, eraseDups_filter]
  · intro q
    rw [get?_filter, get?_ofListFirst, get?_ofListFirst]
    by_cases hq : p q = true
    · rw [lookup_filter p hq]
      cases l.lookup q with
      | none => rfl
      | some v => exact if_pos hq
    · rw [lookup_filter_of_not p hq]
      cases l.lookup q with
      | none => rfl
      | some v => exact if_neg hq

/-! ## Tables put together -/

theorem nodup_append_new {names : List String} (h : names.Nodup) (u : Table α) :
    (names ++ (u.entries.filter fun e => e.1 ∉ names).map Prod.fst).Nodup := by
  refine List.nodup_append.mpr ⟨h, u.distinct.sublist (List.filter_sublist.map Prod.fst), ?_⟩
  rintro _ hold _ hnew rfl
  obtain ⟨e, he, rfl⟩ := List.mem_map.mp hnew
  have hnot := (List.mem_filter.mp he).2
  exact (decide_eq_true_eq.mp hnot) hold

theorem lookup_filter_new {t : Table α} {q : String} (h : t.get? q = none) (u : Table α) :
    (u.entries.filter fun e => e.1 ∉ t.names).lookup q = u.get? q := by
  have hnew : q ∉ t.names := by
    have hcontains := t.contains_eq_isSome_get? q
    rw [h] at hcontains
    simpa [contains] using hcontains
  exact lookup_filter (fun name => decide (name ∉ t.names)) (by simpa using hnew) u.entries

/-- A table updated with another one: known names keep their places and take the new values,
new names follow. -/
def update (t u : Table α) : Table α where
  entries := (t.entries.map fun e => (e.1, (u.get? e.1).getD e.2)) ++
    u.entries.filter fun e => e.1 ∉ t.names
  distinct := by
    rw [List.map_append, List.map_map]
    exact nodup_append_new t.distinct u

theorem names_update (t u : Table α) :
    (t.update u).names = t.names ++ u.names.filter fun name => name ∉ t.names := by
  simp only [names, update, List.map_append, List.map_map, List.filter_map]
  rfl

theorem get?_update (t u : Table α) (q : String) :
    (t.update u).get? q = (u.get? q).or (t.get? q) := by
  unfold get? update
  rw [List.lookup_append, lookup_map_values fun name v => (u.get? name).getD v]
  show ((t.get? q).map _).or _ = (u.get? q).or (t.get? q)
  cases ht : t.get? q with
  | some v => cases u.get? q <;> rfl
  | none =>
    rw [lookup_filter_new ht]
    exact (Option.or_none ..).symm

/-- To assign values one by one is to update with the table of the assignments. -/
theorem foldl_insert_eq_update (l : List (String × α)) (t : Table α) :
    l.foldl (fun t (name, v) => t.insert name v) t = t.update (ofList l) := by
  apply eq_of_get?
  · rw [names_update, names_ofList]
    exact names_foldl names (fun t e => names_insert t e.1 e.2) l t
  · intro q
    rw [get?_update, ofList, get?_foldl_insert, get?_foldl_insert, get?_empty, Option.or_none]

/-- A table extended with another one: its own entries, and those with new names behind them. -/
def extend (t u : Table α) : Table α where
  entries := t.entries ++ u.entries.filter fun e => e.1 ∉ t.names
  distinct := by
    rw [List.map_append]
    exact nodup_append_new t.distinct u

theorem names_extend (t u : Table α) :
    (t.extend u).names = t.names ++ u.names.filter fun name => name ∉ t.names := by
  simp only [names, extend, List.map_append, List.filter_map]
  rfl

theorem get?_extend (t u : Table α) (q : String) :
    (t.extend u).get? q = (t.get? q).or (u.get? q) := by
  unfold get? extend
  rw [List.lookup_append]
  show (t.get? q).or _ = (t.get? q).or (u.get? q)
  cases ht : t.get? q with
  | some v => rfl
  | none => rw [lookup_filter_new ht]

/-- To add values one by one, unless their names are known, is to extend with their table. -/
theorem foldl_insertNew_eq_extend (l : List (String × α)) (t : Table α) :
    l.foldl (fun t (name, v) => t.insertNew name v) t = t.extend (ofListFirst l) := by
  apply eq_of_get?
  · rw [names_extend, names_ofListFirst]
    exact names_foldl names (fun t e => names_insertNew t e.1 e.2) l t
  · intro q
    rw [get?_extend, get?_ofListFirst, get?_foldl_insertNew]

theorem ofListFirst_append (l l' : List (String × α)) :
    ofListFirst (l ++ l') = (ofListFirst l).extend (ofListFirst l') := by
  rw [ofListFirst, List.foldl_append]
  exact foldl_insertNew_eq_extend l' (ofListFirst l)

end RouteMap.Table
