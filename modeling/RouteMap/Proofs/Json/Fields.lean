import RouteMap.Json.Field
import RouteMap.Proofs.Json.Canonical

/-!
# Fields that were written

Each kind of field is left out when its value is absent and then read as absent, and
otherwise read as the value that was written. For every kind there are two laws: the
look-up in the fields of a record gives the value back, and the written field fits its
declaration. Where an absent value is written as null instead, the field is gone from what
is read (`Reads.nullable`, `withoutNulls_nullable`).
-/

namespace RouteMap.Json

/-! ## Looking up a field -/

@[simp] theorem field?_object (fs : List (String × Json)) (name : String) :
    (object fs).field? name = fs.lookup name := rfl

@[simp] theorem lookup_optionalField (name : String) (value : Option Json) (q : String) :
    (optionalField name value).lookup q = if q = name then value else none := by
  cases value with
  | none => exact (ite_self none).symm
  | some v => rw [optionalField, Table.lookup_cons, List.lookup_nil]

@[simp] theorem lookup_unlessEmpty {α : Type} (name : String) (wrap : List α → Json)
    (content : List α) (q : String) :
    (unlessEmpty name wrap content).lookup q =
      if q = name ∧ content ≠ [] then some (wrap content) else none := by
  unfold unlessEmpty
  cases content with
  | nil => simp
  | cons a content => simp [Table.lookup_cons]

@[simp] theorem lookup_textTable (name : String) (t : Table String) (q : String) :
    (textTable name t).lookup q =
      if q = name ∧ (t.map Json.string).entries ≠ [] then
        some (.object (t.map Json.string).entries)
      else none :=
  lookup_unlessEmpty name .object _ q

/-! ## The value of a field -/

@[simp] theorem asString?_string (s : String) : (string s).asString? = some s := rfl

@[simp] theorem asBool?_bool (b : Bool) : (bool b).asBool? = some b := rfl

@[simp] theorem asArray?_array (items : List Json) : (array items).asArray? = some items := rfl

@[simp] theorem bind_asString? (o : Option String) : (o.map string).bind asString? = o := by
  cases o <;> rfl

theorem named?_of_field? {α : Type} {j : Json} {field : String} {name : α → String}
    {ofName? : String → Option α} (hname : ∀ a, ofName? (name a) = some a) {o : Option α}
    (h : j.field? field = o.map fun a => string (name a)) :
    (j.text? field).bind ofName? = o := by
  unfold text?
  rw [h]
  cases o with
  | none => rfl
  | some a => exact hname a

theorem port?_of_field? {j : Json} {name : String} {o : Option UInt16}
    (h : j.field? name = o.map port) : j.port? name = o := by
  unfold port? integer?
  rw [h]
  cases o with
  | none => rfl
  | some p =>
    show some (UInt16.ofNat (p.toNat : Int).toNat) = some p
    rw [Int.toNat_natCast, UInt16.ofNat_toNat]

theorem int32?_of_field? {j : Json} {name : String} {o : Option Int32}
    (h : j.field? name = o.map int32) : j.int32? name = o := by
  unfold int32? integer?
  rw [h]
  cases o with
  | none => rfl
  | some n => exact congrArg some (Int32.ofInt_toInt n)

theorem mapM_map_of_inverse {α β : Type} {f : α → β} {g : β → Option α}
    (h : ∀ a, g (f a) = some a) (l : List α) : (l.map f).mapM g = some l := by
  induction l with
  | nil => rfl
  | cons a l ih =>
    rw [List.map_cons, List.mapM_cons, h, ih]
    rfl

/-- Items that are written one by one are read one by one. -/
theorem items_of_field? {α : Type} {f : α → Json} {g : Json → Option α}
    (hinverse : ∀ a, g (f a) = some a) {j : Json} {name : String} {l : List α}
    (h : j.field? name = some (.array (l.map f))) : (j.items name).mapM g = some l := by
  have hitems : j.items name = l.map f := by
    unfold items
    rw [h]
    rfl
  rw [hitems, mapM_map_of_inverse hinverse]

/-- A missing field and an empty list come to the same items. -/
theorem items_of_unlessEmpty {α : Type} {f : α → Json} {g : Json → Option α}
    (hinverse : ∀ a, g (f a) = some a) {j : Json} {name : String} {l : List α}
    (h : j.field? name = if l.map f ≠ [] then some (.array (l.map f)) else none) :
    (j.items name).mapM g = some l := by
  cases l with
  | nil =>
    unfold items
    rw [h]
    rfl
  | cons a l => exact items_of_field? hinverse h

/-- A missing field and an empty object come to the same fields. -/
theorem fields_of_unlessEmpty {j : Json} {name : String} {fs : List (String × Json)}
    (h : j.field? name = if fs ≠ [] then some (.object fs) else none) : j.fields name = fs := by
  unfold fields
  rw [h]
  cases fs <;> rfl

/-- A table that is left out when it is empty is the empty one when it is not there. -/
theorem textTable?_of_field? {j : Json} {name : String} {t : Table String}
    (h : j.field? name =
      if (t.map Json.string).entries ≠ [] then some (.object (t.map Json.string).entries)
      else none) :
    j.textTable? name = some t := by
  have htexts : texts? (t.map Json.string).entries = some t.entries := by
    apply mapM_map_of_inverse
    intro e
    rfl
  unfold textTable?
  rw [fields_of_unlessEmpty h, htexts, Option.map_some, Table.ofList_entries]

/-! ## Fields that fit -/

theorem canonical_port (depth : Nat) (p : UInt16) : Canonical depth portShape (port p) := by
  have hlt : p.toNat < 65536 := p.toNat_lt
  refine .integer ?_ ?_
  · omega
  · show -0x8000000000000000 ≤ (p.toNat : Int) ∧ (p.toNat : Int) < 0x10000000000000000
    omega

theorem canonical_int32 (depth : Nat) (n : Int32) : Canonical depth int32Shape (int32 n) := by
  have hlow := n.le_toInt
  have hhigh := n.toInt_lt
  refine .integer ?_ ?_
  · omega
  · show -0x8000000000000000 ≤ n.toInt ∧ n.toInt < 0x10000000000000000
    omega

theorem Canonical.list_map {α : Type} {depth : Nat} {item : Shape} {f : α → Json}
    (hf : ∀ a, Canonical depth item (f a)) (l : List α) :
    Canonical (depth + 1) (.list item) (.array (l.map f)) := by
  apply Canonical.list
  intro v hv
  obtain ⟨a, _, rfl⟩ := List.mem_map.mp hv
  exact hf a

section

variable {depth : Nat} {name : String} {presence : Presence} {layout : Layout}
  {fs : List (String × Json)}

theorem Fits.optional {α : Type} {shape : Shape} {f : α → Json}
    (hf : ∀ a, Canonical depth shape (f a)) (o : Option α) (hp : presence ≠ .required)
    (hfs : Fits depth layout fs) :
    Fits depth (.field name presence shape layout) (optionalField name (o.map f) ++ fs) := by
  cases o with
  | none => exact .absent hp hfs
  | some a => exact .present (hf a) hfs

theorem Fits.unlessEmpty {α : Type} {shape : Shape} {wrap : List α → Json} {content : List α}
    (hcontent : Canonical depth shape (wrap content)) (hp : presence ≠ .required)
    (hfs : Fits depth layout fs) :
    Fits depth (.field name presence shape layout)
      (Json.unlessEmpty name wrap content ++ fs) := by
  unfold Json.unlessEmpty
  split
  · exact .absent hp hfs
  · exact .present hcontent hfs

theorem Fits.textTable (t : Table String) (hp : presence ≠ .required)
    (hfs : Fits (depth + 1) layout fs) :
    Fits (depth + 1) (.field name presence (.table .text) layout)
      (Json.textTable name t ++ fs) :=
  .unlessEmpty (.table (t.map Json.string).distinct
    (List.forall_mem_map.mpr fun e _ => .text e.2)) hp hfs

end

/-! ## Fields that may be null -/

section

variable {depth : Nat} {name : String} {presence : Presence} {shape : Shape} {layout : Layout}
  {fs ws : List (String × Json)}

/-- A field is read as its value is, unless the value is null. -/
theorem Reads.value {v w : Json} (hnull : v ≠ .null)
    (hv : (Node.ofJson v).conform .json depth shape = .ok w) (hfs : Reads depth layout fs ws) :
    Reads depth (.field name presence shape layout) ((name, v) :: fs) ((name, w) :: ws) := by
  refine .present ?_ hfs
  rw [nullFor?_ofJson hnull]
  exact hv

theorem Reads.canonical {v : Json} (hv : Canonical depth shape v) (hfs : Reads depth layout fs ws) :
    Reads depth (.field name presence shape layout) ((name, v) :: fs) ((name, v) :: ws) :=
  .value hv.ne_null (Canonical.conform_ofJson v hv) hfs

/-- A record inside a record is read with its fields that are not null. -/
theorem Reads.record {strict : Bool} {inner : Layout} {gs us : List (String × Json)}
    (hgs : Reads depth inner gs us) (hnames : inner.names.Nodup)
    (hfs : Reads (depth + 1) layout fs ws) :
    Reads (depth + 1) (.field name presence (.record strict inner) layout)
      ((name, .object gs) :: fs) ((name, .object (withoutNulls us)) :: ws) :=
  .value Json.noConfusion (hgs.conform_record hnames strict) hfs

/-- An absent value is written as null and read as null. -/
theorem Reads.nullable {α : Type} {f : α → Json} (hf : ∀ a, Canonical depth shape (f a))
    (o : Option α) (hfs : Reads depth layout fs ws) :
    Reads depth (.field name .nullable shape layout) ((name, Json.nullable (o.map f)) :: fs)
      ((name, Json.nullable (o.map f)) :: ws) := by
  cases o with
  | none => exact .present rfl hfs
  | some a => exact .canonical (hf a) hfs

/-- Without the nulls, an absent value is left out. -/
theorem withoutNulls_nullable {α : Type} {f : α → Json} (hf : ∀ a, f a ≠ .null)
    (o : Option α) :
    withoutNulls ((name, Json.nullable (o.map f)) :: fs) =
      optionalField name (o.map f) ++ withoutNulls fs := by
  cases o with
  | none => rfl
  | some a => exact withoutNulls_cons (hf a) name fs

theorem exact_nullable {α : Type} {f : α → Json} (hf : ∀ a, Exact (f a)) (o : Option α) :
    Exact (Json.nullable (o.map f)) := by
  cases o with
  | none => trivial
  | some a => exact hf a

end

end RouteMap.Json
