import RouteMap.Json.Shape
import RouteMap.Proofs.Table

/-!
# Records that were written

The fields of a record are written in their declared order. A field that need not be there
may be left out, and one that may be null may be written as null. `Reads` relates such
fields to what is read of them one by one; the record that is read has those that are not
null (`Reads.conform_record`).
-/

namespace RouteMap.Json

/-- The names of the fields of a record. -/
def Layout.names : Layout → List String
  | .nil => []
  | .field name _ _ rest => name :: rest.names

/-- Induction over the fields of a layout alone, not over their shapes. -/
@[induction_eliminator]
theorem Layout.induction {P : Layout → Prop} (nil : P .nil)
    (field : ∀ name presence shape rest, P rest → P (.field name presence shape rest)) :
    ∀ layout, P layout
  | .nil => nil
  | .field name presence shape rest => field name presence shape rest (induction nil field rest)

/-- The fields that are not null. -/
def withoutNulls : List (String × Json) → List (String × Json)
  | [] => []
  | (_, .null) :: fs => withoutNulls fs
  | (name, v) :: fs => (name, v) :: withoutNulls fs

@[simp] theorem withoutNulls_nil : withoutNulls [] = [] := rfl

@[simp] theorem withoutNulls_cons {v : Json} (h : v ≠ .null) (name : String)
    (fs : List (String × Json)) :
    withoutNulls ((name, v) :: fs) = (name, v) :: withoutNulls fs := by
  cases v with
  | null => contradiction
  | _ => rfl

theorem withoutNulls_eq_self {fs : List (String × Json)} (h : ∀ f ∈ fs, f.2 ≠ .null) :
    withoutNulls fs = fs := by
  induction fs with
  | nil => rfl
  | cons f fs ih =>
    obtain ⟨name, v⟩ := f
    rw [withoutNulls_cons (h (name, v) List.mem_cons_self),
      ih fun f hf => h f (List.mem_cons_of_mem _ hf)]

/-- Fields that are written as a layout declares them, in its order, and what is read of
each of them. -/
inductive Reads (depth : Nat) : Layout → List (String × Json) → List (String × Json) → Prop where
  | nil : Reads depth .nil [] []
  | present {name : String} {presence : Presence} {shape : Shape} {v w : Json} {layout : Layout}
      {fs ws : List (String × Json)}
      (hv : ((Node.ofJson v).nullFor? presence).getD
        ((Node.ofJson v).conform .json depth shape) = .ok w)
      (hfs : Reads depth layout fs ws) :
      Reads depth (.field name presence shape layout) ((name, v) :: fs) ((name, w) :: ws)
  | absent {name : String} {presence : Presence} {shape : Shape} {layout : Layout}
      {fs ws : List (String × Json)} (hp : presence ≠ .required) (hfs : Reads depth layout fs ws) :
      Reads depth (.field name presence shape layout) fs ws

section

variable {depth : Nat} {layout : Layout} {fs ws : List (String × Json)}

/-- What is read has names from the layout, in the same order. -/
theorem Reads.names_sublist (h : Reads depth layout fs ws) :
    (ws.map Prod.fst).Sublist layout.names := by
  induction h with
  | nil => exact List.Sublist.refl []
  | present _ _ ih => exact ih.cons_cons _
  | absent _ _ ih => exact ih.cons _

/-- The reader of the members finds the declaration of every field. Behind the fields that
were read it goes on with a part of the whole layout. -/
theorem Reads.fields_members {whole : Layout} (strict : Bool) (h : Reads depth layout fs ws)
    (hnames : layout.names.Nodup)
    (hwhole : ∀ q ∈ layout.names, whole.find? q = layout.find? q) (read : List (String × Json))
    (hnew : ∀ q ∈ layout.names, q ∉ read.map Prod.fst) :
    (Members.ofList fs).fields .json depth strict whole read = .ok (ws.reverse ++ read) := by
  induction h generalizing read with
  | nil => rfl
  | @present name presence shape v w layout fs ws hv _ ih =>
    obtain ⟨hname, hnames⟩ := List.nodup_cons.mp hnames
    have hfind : whole.find? name = some (presence, shape) :=
      (hwhole name List.mem_cons_self).trans (if_pos rfl)
    have hlookup : read.lookup name = none :=
      Table.lookup_eq_none_of_not_mem (hnew name List.mem_cons_self)
    have hothers := ih hnames
      (fun q hq => by
        have hne : q ≠ name := ne_of_mem_of_not_mem hq hname
        rw [hwhole q (List.mem_cons_of_mem _ hq), Layout.find?, if_neg hne])
      ((name, w) :: read)
      (fun q hq => by
        rw [List.map_cons, List.mem_cons, not_or]
        exact ⟨ne_of_mem_of_not_mem hq hname, hnew q (List.mem_cons_of_mem _ hq)⟩)
    rw [Members.ofList, Members.fields, hfind]
    simp only [hlookup, hv, bind, Except.bind, hothers]
    simp
  | @absent name presence shape layout fs ws _ _ ih =>
    obtain ⟨hname, hnames⟩ := List.nodup_cons.mp hnames
    refine ih hnames (fun q hq => ?_) read fun q hq => hnew q (List.mem_cons_of_mem _ hq)
    have hne : q ≠ name := ne_of_mem_of_not_mem hq hname
    rw [hwhole q (List.mem_cons_of_mem _ hq), Layout.find?, if_neg hne]

/-- What was read is collected in the declared order, whatever the order in which it was
read, and without nulls. -/
theorem Reads.collect (h : Reads depth layout fs ws) (hnames : layout.names.Nodup)
    {read : List (String × Json)}
    (hread : ∀ q ∈ layout.names, read.lookup q = ws.lookup q) :
    layout.collect read = .ok (withoutNulls ws) := by
  induction h with
  | nil => rfl
  | @present name presence shape v w layout fs ws _ _ ih =>
    obtain ⟨hname, hnames⟩ := List.nodup_cons.mp hnames
    have hhead := hread name List.mem_cons_self
    have hrest : layout.collect read = .ok (withoutNulls ws) := by
      apply ih hnames
      intro q hq
      have hne : q ≠ name := ne_of_mem_of_not_mem hq hname
      rw [hread q (List.mem_cons_of_mem _ hq), Table.lookup_cons, if_neg hne]
    rw [Table.lookup_cons, if_pos rfl] at hhead
    unfold Layout.collect
    rw [hhead, hrest]
    cases w <;> rfl
  | @absent name presence shape layout fs ws hp hfs ih =>
    obtain ⟨hname, hnames⟩ := List.nodup_cons.mp hnames
    have hrest : layout.collect read = .ok (withoutNulls ws) :=
      ih hnames fun q hq => hread q (List.mem_cons_of_mem _ hq)
    have hnone : ws.lookup name = none :=
      Table.lookup_eq_none_of_not_mem fun hmem => hname (hfs.names_sublist.subset hmem)
    unfold Layout.collect
    rw [hread name List.mem_cons_self, hnone]
    cases presence with
    | required => exact absurd rfl hp
    | defaulted => exact hrest
    | nullable => exact hrest

/-- **A record that was written is read with its fields that are not null.** -/
theorem Reads.conform_record (h : Reads depth layout fs ws) (hnames : layout.names.Nodup)
    (strict : Bool) :
    (Node.ofJson (.object fs)).conform .json (depth + 1) (.record strict layout) =
      .ok (.object (withoutNulls ws)) := by
  -- the fields are read in reverse and collected in the declared order again
  have hfields := h.fields_members strict hnames (fun _ _ => rfl) [] (fun _ _ => List.not_mem_nil)
  have hcollect := h.collect hnames fun q _ =>
    Table.lookup_reverse (hnames.sublist h.names_sublist) q
  rw [List.append_nil] at hfields
  simp only [Node.ofJson, Node.conform, hfields, bind, Except.bind, hcollect]
  rfl

end

end RouteMap.Json
