import RouteMap.Json.Shape
import RouteMap.Proofs.Json.Plain
import RouteMap.Proofs.Json.Record
import RouteMap.Proofs.Json.Tree
import RouteMap.Proofs.Table

/-!
# Canonical values

A reader brings a value into the canonical form of a shape. `Canonical` describes this
form without the reader: no field is null, the fields of a record stand in their declared
order, the names of a table are distinct, and numbers fit. A value that has the form
already is read as it is (`Canonical.conform_ofJson`), so a canonical value that was
written is read without loss (`Canonical.read_prettyText`).
-/

namespace RouteMap.Json

mutual

/-- A value has the canonical form of a shape, and at most `depth` containers of it are
open at a time. -/
inductive Canonical : Nat → Shape → Json → Prop where
  | text {depth : Nat} (s : String) : Canonical depth .text (.string s)
  | flag {depth : Nat} (b : Bool) : Canonical depth .flag (.bool b)
  | integer {depth : Nat} {low high n : Int} (hrange : low ≤ n ∧ n ≤ high)
      (hexact : Number.Exact (.integer n)) :
      Canonical depth (.integer low high) (.number (.integer n))
  | choice {depth : Nat} {names : List String} {s : String} (hs : s ∈ names) :
      Canonical depth (.choice names) (.string s)
  | plain {depth : Nat} {v : Json} (hv : Plain depth v) : Canonical depth .plain v
  | list {depth : Nat} {item : Shape} {vs : List Json} (hvs : ∀ v ∈ vs, Canonical depth item v) :
      Canonical (depth + 1) (.list item) (.array vs)
  | table {depth : Nat} {value : Shape} {fs : List (String × Json)}
      (hnames : (fs.map Prod.fst).Nodup) (hfs : ∀ f ∈ fs, Canonical depth value f.2) :
      Canonical (depth + 1) (.table value) (.object fs)
  | record {depth : Nat} {strict : Bool} {layout : Layout} {fs : List (String × Json)}
      (hnames : layout.names.Nodup) (hfs : Fits depth layout fs) :
      Canonical (depth + 1) (.record strict layout) (.object fs)

/-- The fields of a record are those of a layout in the declared order, some that need
not be there left out. -/
inductive Fits : Nat → Layout → List (String × Json) → Prop where
  | nil {depth : Nat} : Fits depth .nil []
  | present {depth : Nat} {name : String} {presence : Presence} {shape : Shape} {v : Json}
      {layout : Layout} {fs : List (String × Json)} (hv : Canonical depth shape v)
      (hfs : Fits depth layout fs) :
      Fits depth (.field name presence shape layout) ((name, v) :: fs)
  | absent {depth : Nat} {name : String} {presence : Presence} {shape : Shape}
      {layout : Layout} {fs : List (String × Json)} (hp : presence ≠ .required)
      (hfs : Fits depth layout fs) : Fits depth (.field name presence shape layout) fs

end

/-! ## What canonical values are not -/

theorem Canonical.ne_null {depth : Nat} {shape : Shape} {v : Json}
    (h : Canonical depth shape v) : v ≠ .null := by
  rintro rfl
  cases h with
  | plain hv => cases hv

/-- A value that is not null is never taken for the null of a field that may be null. -/
theorem nullFor?_ofJson {v : Json} (h : v ≠ .null) (presence : Presence) :
    (Node.ofJson v).nullFor? presence = none := by
  cases v with
  | null => contradiction
  | _ => cases presence <;> rfl

/-! ## The fields of a record -/

/-- Every field that fits a layout has the canonical form of a shape. -/
theorem Fits.canonical_of_mem {depth : Nat} {layout : Layout} {fs : List (String × Json)}
    (h : Fits depth layout fs) {f : String × Json} (hf : f ∈ fs) :
    ∃ shape, Canonical depth shape f.2 := by
  induction layout generalizing fs with
  | nil =>
    cases h
    contradiction
  | field name presence shape layout ih =>
    cases h with
    | present hv hfs =>
      rcases List.mem_cons.mp hf with rfl | hf
      · exact ⟨shape, hv⟩
      · exact ih hfs hf
    | absent _ hfs => exact ih hfs hf

theorem Fits.ne_null {depth : Nat} {layout : Layout} {fs : List (String × Json)}
    (h : Fits depth layout fs) : ∀ f ∈ fs, f.2 ≠ .null := by
  intro f hf
  obtain ⟨_, hv⟩ := h.canonical_of_mem hf
  exact hv.ne_null

/-- Fields that fit a layout are read as they are, once their values are. -/
theorem Fits.reads {depth : Nat} {layout : Layout} {fs : List (String × Json)}
    (h : Fits depth layout fs)
    (hfs : ∀ f ∈ fs, ∀ shape, Canonical depth shape f.2 →
      (Node.ofJson f.2).conform .json depth shape = .ok f.2) :
    Reads depth layout fs fs := by
  induction layout generalizing fs with
  | nil =>
    cases h
    exact .nil
  | field name presence shape layout ih =>
    cases h with
    | @present _ _ _ _ v _ fs hv hrest =>
      refine .present ?_ (ih hrest fun f hf => hfs f (List.mem_cons_of_mem _ hf))
      rw [nullFor?_ofJson hv.ne_null]
      exact hfs (name, v) List.mem_cons_self shape hv
    | absent hp hrest => exact .absent hp (ih hrest hfs)

/-! ## A canonical value is read as it is -/

mutual

/-- **A canonical value is read as it is.** -/
theorem Canonical.conform_ofJson (v : Json) {depth : Nat} {shape : Shape}
    (h : Canonical depth shape v) : (Node.ofJson v).conform .json depth shape = .ok v := by
  cases h with
  | text => rfl
  | flag => rfl
  | integer hrange _ =>
    simp only [Node.ofJson, Node.conform, Shape.scalar, if_pos hrange]
    rfl
  | choice hs =>
    have hcontains := List.contains_iff_mem.mpr hs
    simp only [Node.ofJson, Node.conform, Shape.scalar, if_pos hcontains]
  | plain hv => exact hv.conform_ofJson
  | @list depth item vs hvs =>
    have hitems := Canonical.conform_ofList vs hvs
    simp only [Node.ofJson, Node.conform, hitems]
    rfl
  | @table depth value fs hnames hfs =>
    have hmembers := Canonical.conform_members fs [] hnames hfs
    simp only [Node.ofJson, Node.conform, hmembers]
    rfl
  | @record depth strict layout fs hnames hfs =>
    have hrecord := (hfs.reads (Canonical.conform_fields fs)).conform_record hnames strict
    rwa [withoutNulls_eq_self hfs.ne_null] at hrecord

theorem Canonical.conform_ofList (vs : List Json) {depth : Nat} {item : Shape}
    (h : ∀ v ∈ vs, Canonical depth item v) :
    (Items.ofList vs).conform .json depth item = .ok vs := by
  cases vs with
  | nil => rfl
  | cons v vs =>
    have hfirst := Canonical.conform_ofJson v (h v List.mem_cons_self)
    have hothers := Canonical.conform_ofList vs fun w hw => h w (List.mem_cons_of_mem v hw)
    simp only [Items.ofList, Items.conform, hfirst, hothers, bind, Except.bind]
    rfl

/-- The members of a table are appended to those that were read before. -/
theorem Canonical.conform_members (fs read : List (String × Json)) {depth : Nat} {value : Shape}
    (hnames : ((read ++ fs).map Prod.fst).Nodup) (h : ∀ f ∈ fs, Canonical depth value f.2) :
    (Members.ofList fs).conform .json depth value read = .ok (read ++ fs) := by
  cases fs with
  | nil => simp [Members.ofList, Members.conform, Ending.category]
  | cons f fs =>
    obtain ⟨name, v⟩ := f
    have hfirst := Canonical.conform_ofJson v (h (name, v) List.mem_cons_self)
    have hnew := Table.not_mem_of_nodup_append hnames
    -- a new name goes behind the others, so nothing that was read is replaced
    have hothers := Canonical.conform_members fs (read ++ [(name, v)]) (by simpa using hnames)
      fun f hf => h f (List.mem_cons_of_mem _ hf)
    simp only [Members.ofList, Members.conform, hfirst, bind, Except.bind,
      Table.assign_of_not_mem hnew, hothers]
    simp

/-- Each field of a record is read by the shape that it is declared with. -/
theorem Canonical.conform_fields (fs : List (String × Json)) {depth : Nat} :
    ∀ f ∈ fs, ∀ shape, Canonical depth shape f.2 →
      (Node.ofJson f.2).conform .json depth shape = .ok f.2 := by
  cases fs with
  | nil => exact fun _ hf => absurd hf List.not_mem_nil
  | cons g fs =>
    obtain ⟨name, v⟩ := g
    intro f hf shape h
    rcases List.mem_cons.mp hf with rfl | hf
    · exact Canonical.conform_ofJson v h
    · exact Canonical.conform_fields fs f hf shape h

end

/-! ## A canonical value survives being written -/

mutual

/-- The numbers of a canonical value fit. -/
theorem Canonical.exact (v : Json) {depth : Nat} {shape : Shape} (h : Canonical depth shape v) :
    Exact v := by
  cases h with
  | text => trivial
  | flag => trivial
  | integer _ hexact => exact hexact
  | choice => trivial
  | plain hv => exact Plain.exact _ hv
  | @list depth item vs hvs => exact Canonical.exactItems vs fun v hv => ⟨depth, item, hvs v hv⟩
  | @table depth value fs _ hfs =>
    exact Canonical.exactFields fs fun f hf => ⟨depth, value, hfs f hf⟩
  | @record depth _ _ fs _ hfs =>
    exact Canonical.exactFields fs fun f hf => ⟨depth, hfs.canonical_of_mem hf⟩

theorem Canonical.exactItems (vs : List Json)
    (h : ∀ v ∈ vs, ∃ depth shape, Canonical depth shape v) : ExactItems vs := by
  cases vs with
  | nil => trivial
  | cons v vs =>
    obtain ⟨_, _, hv⟩ := h v List.mem_cons_self
    exact ⟨Canonical.exact v hv,
      Canonical.exactItems vs fun w hw => h w (List.mem_cons_of_mem v hw)⟩

theorem Canonical.exactFields (fs : List (String × Json))
    (h : ∀ f ∈ fs, ∃ depth shape, Canonical depth shape f.2) : ExactFields fs := by
  cases fs with
  | nil => trivial
  | cons f fs =>
    obtain ⟨name, v⟩ := f
    obtain ⟨_, _, hv⟩ := h (name, v) List.mem_cons_self
    exact ⟨Canonical.exact v hv,
      Canonical.exactFields fs fun f hf => h f (List.mem_cons_of_mem _ hf)⟩

end

/-- **A canonical value that was written is read without loss**, unless it is nested too
deep for a reader. -/
theorem Canonical.read_prettyText {shape : Shape} {v : Json} (h : Canonical maxDepth shape v) :
    shape.read v.prettyText = .ok v := by
  unfold Shape.read Document.conform
  rw [Document.ofText_prettyText (Canonical.exact v h), Canonical.conform_ofJson v h]
  rfl

/-- A text is read as what its canonical form stands for. -/
theorem Shape.read_bind_eq_ok {α : Type} {shape : Shape} {text : String} {v : Json}
    {ofJson? : Json → Option α} {a : α} (hread : shape.read text = .ok v)
    (h : ofJson? v = some a) :
    (shape.read text >>= fun j => (ofJson? j).elim (.error .mismatch) .ok) = .ok a := by
  rw [hread]
  show (ofJson? v).elim _ _ = _
  rw [h]
  rfl

end RouteMap.Json
