import RouteMap.Annotation.Registry
import RouteMap.Proofs.Table.Update

/-!
# Registries entry by entry

Every operation on registries comes to adding entries, one after another: a bare type, or a type
with one attribute. What is wanted of a type depends on the entries of this type alone
(`get?_addAll`), and the types stand in the order of their first entries (`names_addAll`). A
registry may be written out as entries again, and to merge it is to add these
(`merge_eq_addAll`). For one type they say what the entries said of which the registry was made,
although a bare type has swallowed the attributes beside it
(`Selection.extendAll_given_extendAll`).
-/

namespace RouteMap.Registry

/-- A type, with one of its attributes or bare. -/
abbrev Entry := String × Option String

/-- The registry with one more entry. -/
def add (r : Registry) (e : Entry) : Registry :=
  match e.2 with
  | none => r.withAll e.1
  | some name => r.withAttribute e.1 name

/-- The registry with more entries. -/
def addAll (r : Registry) (es : List Entry) : Registry := es.foldl add r

/-! ## One type -/

namespace Selection

/-- What is wanted of a type with one more entry: all attributes if any entry is bare, else those
that are named, each of them once. -/
def extend : Option Selection → Option String → Selection
  | _, none => .all
  | none, some name => .named [name]
  | some .all, some _ => .all
  | some (.named names), some name => .named (if name ∈ names then names else names ++ [name])

/-- What is wanted of a type with more entries. -/
def extendAll (s : Option Selection) (names : List (Option String)) : Option Selection :=
  names.foldl (fun s name => some (extend s name)) s

/-- Entries for what is wanted of a type. -/
def given : Option Selection → List (Option String)
  | none => []
  | some .all => [none]
  | some (.named names) => names.map some

/-- Whether an attribute is wanted. -/
def Wants : Option Selection → String → Prop
  | none, _ => False
  | some .all, _ => True
  | some (.named names), name => name ∈ names

theorem wants_extend (s : Option Selection) (other : Option String) (name : String) :
    Wants (some (extend s other)) name ↔ Wants s name ∨ other = none ∨ other = some name := by
  match other, s with
  | none, _ => simp [extend, Wants]
  | some other, none => simp [extend, Wants, eq_comm]
  | some other, some .all => simp [extend, Wants]
  | some other, some (.named names) =>
    by_cases hmem : other ∈ names
    · have hname : other = name → name ∈ names := fun heq => heq ▸ hmem
      simpa [extend, Wants, hmem] using hname
    · simp [extend, Wants, hmem, eq_comm]

/-- Where not all attributes are wanted, the last entry names one: the first of them, or another. -/
theorem extend_eq_named {s : Option Selection} {name : Option String} {names : List String}
    (h : extend s name = .named names) :
    ∃ added, name = some added ∧ (s = none ∧ names = [added] ∨
      ∃ before, s = some (.named before) ∧
        names = if added ∈ before then before else before ++ [added]) := by
  match name, s with
  | none, _ => cases h
  | some added, none =>
    cases h
    exact ⟨added, rfl, .inl ⟨rfl, rfl⟩⟩
  | some added, some .all => cases h
  | some added, some (.named before) =>
    cases h
    exact ⟨added, rfl, .inr ⟨before, rfl, rfl⟩⟩

/-- To name an attribute that is wanted changes nothing. -/
theorem extend_of_wants {s : Option Selection} {name : String} (h : Wants s name) :
    some (extend s (some name)) = s := by
  match s, h with
  | some .all, _ => rfl
  | some (.named names), h =>
    have hmem : name ∈ names := h
    rw [extend, if_pos hmem]

theorem wants_extendAll (s : Option Selection) (names : List (Option String)) (name : String) :
    Wants (extendAll s names) name ↔ Wants s name ∨ none ∈ names ∨ some name ∈ names := by
  induction names generalizing s with
  | nil => simp [extendAll]
  | cons other names ih =>
    have hstep : extendAll s (other :: names) = extendAll (some (extend s other)) names := rfl
    rw [hstep, ih, wants_extend, List.mem_cons, List.mem_cons]
    have hnone : other = none ↔ none = other := eq_comm
    have hsome : other = some name ↔ some name = other := eq_comm
    tauto

theorem wants_iff (s : Option Selection) (name : String) :
    Wants s name ↔ none ∈ given s ∨ some name ∈ given s := by
  match s with
  | none => simp [Wants, given]
  | some .all => simp [Wants, given]
  | some (.named names) => simp [Wants, given]

theorem isSome_extendAll (s : Option Selection) (names : List (Option String)) :
    (extendAll s names).isSome = true ↔ s.isSome = true ∨ names ≠ [] := by
  induction names generalizing s with
  | nil => simp [extendAll]
  | cons name names ih =>
    have hstep : extendAll s (name :: names) = extendAll (some (extend s name)) names := rfl
    simp [hstep, ih]

/-- Entries that name attributes append those that are new. -/
theorem extendAll_named (before names : List String) :
    extendAll (some (.named before)) (names.map some) =
      some (.named (before ++ names.eraseDups.filter fun name => name ∉ before)) := by
  rw [← Table.foldl_append_new, extendAll, List.foldl_map]
  exact List.foldl_hom (fun names => some (Selection.named names)) fun _ _ => rfl

/-- What is wanted of a type for which a table has a list of attributes. -/
def ofList : List String → Selection
  | [] => .all
  | names => .named names

/-- A list that repeats attributes says what it says without the repetitions. -/
theorem extendAll_given_ofList (names : List String) :
    extendAll none (given (some (ofList names))) = some (ofList names.eraseDups) := by
  cases names with
  | nil => rfl
  | cons name names =>
    have hfirst : extend none (some name) = extend (some (.named [])) (some name) := by
      simp [extend]
    calc extendAll none (given (some (ofList (name :: names))))
      _ = extendAll (some (extend none (some name))) (names.map some) := rfl
      _ = extendAll (some (.named [])) ((name :: names).map some) := by
        rw [hfirst]
        rfl
      _ = some (.named (name :: names).eraseDups) := by
        rw [extendAll_named]
        simp
      _ = some (ofList (name :: names).eraseDups) := by
        rw [List.eraseDups_cons]
        rfl

theorem ofList_ne_named_nil (names : List String) : ofList names ≠ .named [] := by
  cases names <;> simp [ofList]

/-- The list of a selection stands for it. -/
theorem ofList_toList {s : Selection} (h : s ≠ .named []) : ofList s.toList = s := by
  match s with
  | .all => rfl
  | .named [] => exact absurd rfl h
  | .named (_ :: _) => rfl

theorem toList_ofList (names : List String) : (ofList names).toList = names := by
  cases names <;> rfl

/-- The entries for what is wanted with one more entry say what this entry says. -/
theorem extendAll_given_extend (s t : Option Selection) (name : Option String) :
    extendAll s (given (some (extend t name))) = some (extend (extendAll s (given t)) name) := by
  cases name with
  | none => rfl
  | some name =>
    match t with
    | none => rfl
    | some .all => rfl
    | some (.named names) =>
      by_cases hmem : name ∈ names
      · have hgiven : some name ∈ given (some (.named names)) := List.mem_map_of_mem hmem
        have hwants := (wants_extendAll s _ name).mpr (.inr (.inr hgiven))
        rw [extend_of_wants hwants, extend, if_pos hmem]
      · rw [extend, if_neg hmem, given, List.map_append, extendAll, List.foldl_append]
        rfl

/-- **What is wanted of a type says the same as the entries it comes from.** -/
theorem extendAll_given_extendAll (s t : Option Selection) (names : List (Option String)) :
    extendAll s (given (extendAll t names)) = extendAll (extendAll s (given t)) names := by
  induction names generalizing t with
  | nil => rfl
  | cons name names ih =>
    calc extendAll s (given (extendAll t (name :: names)))
      _ = extendAll (extendAll s (given (some (extend t name)))) names := ih _
      _ = extendAll (extendAll s (given t)) (name :: names) := by
        rw [extendAll_given_extend]
        rfl

end Selection

/-! ## What more entries do -/

open Selection

/-- Registries of the same types in the same order, of which they want the same, are equal. -/
theorem eq_of_get? {r s : Registry} (hnames : r.types.names = s.types.names)
    (hget : ∀ type, r.types.get? type = s.types.get? type) : r = s := by
  cases r
  cases s
  exact congrArg Registry.mk (Table.eq_of_get? hnames hget)

theorem selects_iff_wants (r : Registry) (type name : String) :
    r.selects type name = true ↔ Wants (r.types.get? type) name := by
  unfold selects
  match r.types.get? type with
  | none => simp [Wants]
  | some .all => simp [Wants]
  | some (.named names) => simp [Wants]

/-- An entry changes what is wanted of its type and nothing else. -/
theorem add_eq (r : Registry) (e : Entry) :
    r.add e = ⟨r.types.insert e.1 (extend (r.types.get? e.1) e.2)⟩ := by
  obtain ⟨type, name⟩ := e
  cases name with
  | none => rfl
  | some name =>
    show r.withAttribute type name = ⟨r.types.insert type (extend (r.types.get? type) (some name))⟩
    unfold withAttribute
    split
    · next h => rw [Table.insert_eq_self (by rw [h]; rfl)]
    · next names h =>
      split
      · next hmem =>
        have hmem : name ∈ names := List.contains_iff_mem.mp hmem
        rw [Table.insert_eq_self (by rw [h, extend, if_pos hmem])]
      · next hnew =>
        have hnew : name ∉ names := fun hmem => hnew (List.contains_iff_mem.mpr hmem)
        rw [h, extend, if_neg hnew]
    · next h => rw [h, extend]

theorem get?_add (r : Registry) (e : Entry) (type : String) :
    (r.add e).types.get? type =
      if type = e.1 then some (extend (r.types.get? type) e.2) else r.types.get? type := by
  rw [add_eq, Table.get?_insert]
  split
  · next htype => rw [htype]
  · rfl

/-- The entries of a type, less the type. -/
def ofType (type : String) (es : List Entry) : List (Option String) :=
  (es.filter fun e => e.1 = type).map Prod.snd

/-- **What is wanted of a type comes from the entries of this type, in their order.** -/
theorem get?_addAll (r : Registry) (es : List Entry) (type : String) :
    (r.addAll es).types.get? type = extendAll (r.types.get? type) (ofType type es) := by
  induction es generalizing r with
  | nil => rfl
  | cons e es ih =>
    show ((r.add e).addAll es).types.get? type = _
    rw [ih, get?_add]
    by_cases htype : e.1 = type
    · have hfirst : ofType type (e :: es) = e.2 :: ofType type es := by simp [ofType, htype]
      rw [if_pos htype.symm, hfirst]
      rfl
    · have hfirst : ofType type (e :: es) = ofType type es := by simp [ofType, htype]
      rw [if_neg (Ne.symm htype), hfirst]

/-- The types stand in the order of their first entries. -/
theorem names_addAll (r : Registry) (es : List Entry) :
    (r.addAll es).types.names =
      r.types.names ++ (es.map Prod.fst).eraseDups.filter fun type => type ∉ r.types.names := by
  apply Table.names_foldl fun r : Registry => r.types.names
  intro r e
  rw [add_eq]
  exact Table.names_insert _ _ _

theorem names_empty_addAll (es : List Entry) :
    (empty.addAll es).types.names = (es.map Prod.fst).eraseDups := by
  rw [names_addAll]
  exact List.filter_eq_self.mpr fun _ _ => rfl

/-! ## A registry as a list of entries -/

/-- Entries that make up a registry, type by type. -/
def entries (r : Registry) : List Entry :=
  r.types.entries.flatMap fun e => (given (some e.2)).map fun name => (e.1, name)

theorem merge_eq_addAll (r s : Registry) : r.merge s = r.addAll s.entries := by
  rw [addAll, entries, List.foldl_flatMap, merge]
  congr 1
  funext r e
  obtain ⟨type, selection⟩ := e
  cases selection with
  | all => rfl
  | named names =>
    show r.withAttributes type names = List.foldl _ _ _
    rw [given, List.foldl_map, List.foldl_map]
    rfl

/-- The registry of a table is merged from its rows. -/
theorem ofTable_eq_merge (t : Table (List String)) :
    ofTable t = empty.merge ⟨t.map Selection.ofList⟩ := by
  rw [ofTable, merge, Table.entries_map, List.foldl_map]
  congr 1
  funext r e
  obtain ⟨type, names⟩ := e
  cases names <;> rfl

theorem mem_ofType {type : String} {name : Option String} {es : List Entry} :
    name ∈ ofType type es ↔ (type, name) ∈ es := by
  simp [ofType]

theorem ofType_append (type : String) (es es' : List Entry) :
    ofType type (es ++ es') = ofType type es ++ ofType type es' := by
  simp [ofType]

theorem ofType_map (type q : String) (names : List (Option String)) :
    ofType type (names.map fun name => (q, name)) = if type = q then names else [] := by
  rw [ofType, List.filter_map, List.map_map]
  by_cases htype : type = q
  · simp [Function.comp_def, htype]
  · simp [Function.comp_def, htype, Ne.symm htype]

theorem ofType_entries (r : Registry) (type : String) :
    ofType type r.entries = given (r.types.get? type) := by
  obtain ⟨⟨l, hl⟩⟩ := r
  show ofType type (l.flatMap _) = given (l.lookup type)
  induction l with
  | nil => rfl
  | cons e l ih =>
    obtain ⟨q, selection⟩ := e
    obtain ⟨hnew, hrest⟩ := List.nodup_cons.mp hl
    rw [List.flatMap_cons, ofType_append, ofType_map, ih hrest, Table.lookup_cons]
    by_cases htype : type = q
    · -- no other row is of the type
      rw [if_pos htype, if_pos htype, htype, Table.lookup_eq_none_of_not_mem hnew]
      exact List.append_nil _
    · rw [if_neg htype, if_neg htype, List.nil_append]

/-- The entries name the types in the order of the registry, if none is without attributes. -/
theorem eraseDups_entries {r : Registry} (h : ∀ type, r.types.get? type ≠ some (.named [])) :
    (r.entries.map Prod.fst).eraseDups = r.types.names := by
  apply Table.eraseDups_rows (fun selection => given (some selection)) r.types.distinct
  rintro ⟨type, selection⟩ hrow
  match selection with
  | .all => exact List.cons_ne_nil _ _
  | .named [] => exact absurd (Table.mem_entries_iff.mp hrow) (h type)
  | .named (_ :: _) => exact List.cons_ne_nil _ _

/-! ## A text as a list of entries -/

/-- The entry of a trimmed piece of a text. -/
def ofPiece (piece : List Char) : Entry :=
  match Text.cut (· == ':') piece with
  | some (type, name) =>
    (String.ofList (Text.trim type), some (String.ofList (Text.trim name)))
  | none => (String.ofList piece, none)

/-- The entries of a text. -/
def entriesOf (text : String) : List Entry :=
  (((Text.pieces ',' text.toList).map Text.trim).filter fun piece => !piece.isEmpty).map ofPiece

theorem ofText_eq_addAll (text : String) : ofText text = empty.addAll (entriesOf text) := by
  rw [ofText, addAll, entriesOf, List.foldl_map]
  congr 1
  funext r piece
  unfold withEntry ofPiece add
  cases Text.cut (· == ':') piece <;> rfl

end RouteMap.Registry
