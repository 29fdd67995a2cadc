/-!
# Tables

A `Table` associates values with distinct names and remembers the order in which
the names were first seen. `insert` gives a known name a new value in its old
position; `insertNew` leaves a known name alone. Both append an unknown name.

The view of a table is its list of entries; every operation is described by what
it does to `get?` and to the list of names.
-/

namespace RouteMap

/-- Values by distinct names, in the order in which the names were first seen. -/
structure Table (α : Type) where
  entries : List (String × α)
  distinct : (entries.map Prod.fst).Nodup := by simp
deriving DecidableEq

namespace Table

variable {α : Type}

/-- The table without entries. -/
def empty : Table α := { entries := [] }

instance : EmptyCollection (Table α) := ⟨empty⟩

instance : Inhabited (Table α) := ⟨empty⟩

/-- The names, in order. -/
def names (t : Table α) : List String := t.entries.map Prod.fst

/-- The value of a name. -/
def get? (t : Table α) (name : String) : Option α := t.entries.lookup name

/-- Whether the table has an entry for the name. -/
def contains (t : Table α) (name : String) : Bool := t.names.contains name

/-- The number of entries. -/
def size (t : Table α) : Nat := t.entries.length

/-- Whether there are no entries. -/
def isEmpty (t : Table α) : Bool := t.entries.isEmpty

/-! ## Updates -/

/-- The entries with `name` set to `value`: in place if the name occurs, else at the end. -/
def assign (name : String) (value : α) : List (String × α) → List (String × α)
  | [] => [(name, value)]
  | (n, v) :: rest =>
    if n = name then (name, value) :: rest else (n, v) :: assign name value rest

theorem map_fst_assign (name : String) (value : α) (l : List (String × α)) :
    (assign name value l).map Prod.fst =
      if name ∈ l.map Prod.fst then l.map Prod.fst else l.map Prod.fst ++ [name] := by
  induction l with
  | nil => simp [assign]
  | cons e rest ih =>
    obtain ⟨n, v⟩ := e
    by_cases h : n = name
    · simp [assign, h]
    · have h' : name ≠ n := fun e => h e.symm
      by_cases hm : name ∈ rest.map Prod.fst
      · simp_all [assign]
      · simp_all [assign]

theorem nodup_assign (name : String) (value : α) {l : List (String × α)}
    (h : (l.map Prod.fst).Nodup) : ((assign name value l).map Prod.fst).Nodup := by
  rw [map_fst_assign]
  split
  · exact h
  · next hm =>
    rw [List.nodup_append]
    refine ⟨h, by simp, ?_⟩
    intro a ha b hb
    rw [List.mem_singleton] at hb
    rintro rfl
    exact hm (hb ▸ ha)

/-- The table with `name` set to `value`. -/
def insert (t : Table α) (name : String) (value : α) : Table α where
  entries := assign name value t.entries
  distinct := nodup_assign name value t.distinct

/-- The table with `name` set to `value`, unless the name is already there. -/
def insertNew (t : Table α) (name : String) (value : α) : Table α :=
  if t.contains name then t else t.insert name value

/-- The table of a list of entries, where a later value replaces an earlier one. -/
def ofList (l : List (String × α)) : Table α :=
  l.foldl (fun t (name, value) => t.insert name value) empty

/-- The table of a list of entries, where an earlier value shadows a later one. -/
def ofListFirst (l : List (String × α)) : Table α :=
  l.foldl (fun t (name, value) => t.insertNew name value) empty

/-- The table with every value mapped by `f`. -/
def map {β : Type} (f : α → β) (t : Table α) : Table β where
  entries := t.entries.map fun (name, value) => (name, f value)
  distinct := by
    have h := t.distinct
    simpa [Function.comp_def] using h

/-! ## Laws -/

theorem ext {t u : Table α} (h : t.entries = u.entries) : t = u := by
  cases t
  cases u
  simp_all

@[simp] theorem entries_empty : (empty : Table α).entries = [] := rfl

@[simp] theorem get?_empty (name : String) : (empty : Table α).get? name = none := rfl

theorem lookup_cons (q n : String) (v : α) (l : List (String × α)) :
    ((n, v) :: l).lookup q = if q = n then some v else l.lookup q := by
  by_cases h : q = n
  · subst h
    simp
  · have hb : (q == n) = false := by simpa using h
    simp [List.lookup_cons, hb, h]

theorem lookup_assign (name : String) (value : α) (l : List (String × α)) (q : String) :
    (assign name value l).lookup q = if q = name then some value else l.lookup q := by
  induction l with
  | nil => simp [assign, lookup_cons]
  | cons e rest ih =>
    obtain ⟨n, v⟩ := e
    by_cases hn : n = name
    · subst hn
      by_cases h : q = n <;> simp [assign, lookup_cons, h]
    · by_cases h : q = name
      · subst h
        simp [assign, lookup_cons, hn, ih, Ne.symm hn]
      · simp [assign, lookup_cons, hn, h, ih]

/-- Inserting changes the value of the inserted name only. -/
theorem get?_insert (t : Table α) (name : String) (value : α) (q : String) :
    (t.insert name value).get? q = if q = name then some value else t.get? q :=
  lookup_assign name value t.entries q

/-- The names of a table are those that have a value. -/
theorem contains_eq_isSome_get? (t : Table α) (name : String) :
    t.contains name = (t.get? name).isSome := by
  unfold contains names get?
  induction t.entries with
  | nil => rfl
  | cons e rest ih =>
    obtain ⟨n, v⟩ := e
    rw [List.map_cons, List.contains_cons, lookup_cons, ih]
    by_cases h : name = n <;> simp [h]

theorem names_insert (t : Table α) (name : String) (value : α) :
    (t.insert name value).names = if name ∈ t.names then t.names else t.names ++ [name] :=
  map_fst_assign name value t.entries

end Table

end RouteMap
