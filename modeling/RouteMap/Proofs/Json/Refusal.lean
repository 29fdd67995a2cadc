import RouteMap.Proofs.Json.Gains
import RouteMap.Proofs.Json.Record

/-!
# Reading a document with one member more

A document that is read with success may be refused with one member more, or be read as it was
(`Becomes`). Which of the two it is, is settled in the object that has the member
(`Node.Gains.becomes`): a strict record refuses a member with a name that is not declared or that it
has already with this value (`Members.becomes_of_unknown`, `Members.becomes_of_repeated`), and a lax
one passes over a member with a name that is not declared (`Members.becomes_of_passed`).
-/

namespace RouteMap.Json

/-- Induction over the members of an object alone, not over their values. -/
@[induction_eliminator]
theorem Members.induction {P : Members → Prop} (stop : ∀ ending, P (.stop ending))
    (member : ∀ name v rest, P rest → P (.member name v rest)) : ∀ members, P members
  | .stop ending => stop ending
  | .member name v rest => member name v rest (induction stop member rest)

/-! ## Results -/

section

variable {α β : Type} {refused : Bool} {x x' : Except Category α}

/-- What becomes of a reading: if it succeeds, the other one is refused as a mismatch, or has the
same result. -/
def Becomes (refused : Bool) (x x' : Except Category α) : Prop :=
  ∀ a, x = .ok a → x' = if refused then .error .mismatch else .ok a

theorem Becomes.of_error (c : Category) (x' : Except Category α) :
    Becomes refused (.error c) x' := by
  intro a h
  cases h

theorem Becomes.of_mismatch (x : Except Category α) : Becomes true x (.error .mismatch) :=
  fun _ _ => rfl

theorem Becomes.refl (x : Except Category α) : Becomes false x x :=
  fun _ h => h

theorem Becomes.bind_left (h : Becomes refused x x') (k : α → Except Category β) :
    Becomes refused (x >>= k) (x' >>= k) := by
  cases x with
  | error c => exact .of_error c _
  | ok a =>
    rw [h a rfl]
    cases refused with
    | false => exact .refl _
    | true => exact .of_mismatch _

theorem Becomes.bind_right {k k' : α → Except Category β} (h : ∀ a, Becomes refused (k a) (k' a))
    (x : Except Category α) : Becomes refused (x >>= k) (x >>= k') := by
  cases x with
  | error c => exact .of_error c _
  | ok a => exact h a

end

variable {refused strict : Bool} {dialect : Dialect} {depth : Nat} {shape : Shape} {layout : Layout}

/-! ## Behind what is read first -/

theorem Items.becomes_conform_prepend {rest rest' : Items}
    (h : Becomes refused (rest.conform dialect depth shape) (rest'.conform dialect depth shape))
    (done : List Node) :
    Becomes refused ((Items.prepend done rest).conform dialect depth shape)
      ((Items.prepend done rest').conform dialect depth shape) := by
  induction done generalizing rest rest' with
  | nil => exact h
  | cons v done ih =>
    refine ih ?_
    simp only [Items.conform]
    exact .bind_right (fun _ => h.bind_left _) _

theorem Layout.drop_succ (layout : Layout) (n : Nat) :
    layout.drop (n + 1) = (layout.drop n).drop 1 := by
  induction n generalizing layout with
  | zero => rfl
  | succ n ih =>
    cases layout with
    | nil => rfl
    | field name presence shape rest => exact ih rest

/-- Each item of a record is read as the field that it stands for. -/
theorem Items.becomes_fields_prepend {rest rest' : Items} (done : List Node)
    (hlayout : layout.drop done.length ≠ .nil)
    (h : Becomes refused (rest.fields dialect depth (layout.drop done.length))
      (rest'.fields dialect depth (layout.drop done.length))) :
    Becomes refused ((Items.prepend done rest).fields dialect depth layout)
      ((Items.prepend done rest').fields dialect depth layout) := by
  induction done generalizing rest rest' with
  | nil => exact h
  | cons v done ih =>
    rw [List.length_cons, Layout.drop_succ] at h hlayout
    cases hfields : layout.drop done.length with
    | nil =>
      rw [hfields] at hlayout
      exact absurd rfl hlayout
    | field name presence shape fields =>
      rw [hfields] at h
      refine ih (by simp [hfields]) ?_
      simp only [hfields, Items.fields]
      exact .bind_right (fun _ => h.bind_left _) _

theorem Members.becomes_conform_prepend {rest rest' : Members}
    (h : ∀ read, Becomes refused (rest.conform dialect depth shape read)
      (rest'.conform dialect depth shape read)) (done : List (Option String × Node))
    (read : List (String × Json)) :
    Becomes refused ((Members.prepend done rest).conform dialect depth shape read)
      ((Members.prepend done rest').conform dialect depth shape read) := by
  induction done generalizing rest rest' with
  | nil => exact h read
  | cons m done ih =>
    obtain ⟨name, v⟩ := m
    refine ih fun read => ?_
    cases name with
    | none => exact .of_error _ _
    | some name =>
      simp only [Members.conform]
      exact .bind_right (fun _ => h _) _

/-- A member whose name is declared is read once. -/
theorem Members.fields_member_declared {name : String} {presence : Presence}
    (hfind : layout.find? name = some (presence, shape)) (v : Node) (rest : Members)
    (read : List (String × Json)) :
    (Members.member (some name) v rest).fields dialect depth strict layout read =
      if (read.lookup name).isSome then .error .mismatch
      else (v.nullFor? presence).getD (v.conform dialect depth shape) >>= fun w =>
        rest.fields dialect depth strict layout ((name, w) :: read) := by
  rw [Members.fields, hfind]

/-- A member whose name is not declared is refused or passed over. -/
theorem Members.fields_member_undeclared {name : String} (hfind : layout.find? name = none)
    (v : Node) (rest : Members) (read : List (String × Json)) :
    (Members.member (some name) v rest).fields dialect depth strict layout read =
      if strict then .error .mismatch
      else v.skipped.elim (rest.fields dialect depth strict layout read) .error := by
  rw [Members.fields, hfind]
  cases v.skipped <;> rfl

/-- What is read of a record only grows, and what holds of it once holds from then on. -/
theorem Members.becomes_fields_prepend_of_grows {P : List (String × Json) → Prop}
    {rest rest' : Members} (hgrows : ∀ f read, P read → P (f :: read))
    (h : ∀ read, P read → Becomes refused (rest.fields dialect depth strict layout read)
      (rest'.fields dialect depth strict layout read)) (done : List (Option String × Node))
    (read : List (String × Json)) (hread : P read) :
    Becomes refused ((Members.prepend done rest).fields dialect depth strict layout read)
      ((Members.prepend done rest').fields dialect depth strict layout read) := by
  induction done generalizing rest rest' with
  | nil => exact h read hread
  | cons m done ih =>
    obtain ⟨name, v⟩ := m
    refine ih fun read hread => ?_
    cases name with
    | none => exact .of_error _ _
    | some name =>
      cases hfind : layout.find? name with
      | some field =>
        simp only [Members.fields_member_declared hfind]
        split
        · exact .of_error _ _
        · exact .bind_right (fun _ => h _ (hgrows _ _ hread)) _
      | none =>
        simp only [Members.fields_member_undeclared hfind]
        split
        · exact .of_error _ _
        · cases v.skipped with
          | some c => exact .of_error _ _
          | none => exact h read hread

theorem Members.becomes_fields_prepend {rest rest' : Members}
    (h : ∀ read, Becomes refused (rest.fields dialect depth strict layout read)
      (rest'.fields dialect depth strict layout read)) (done : List (Option String × Node))
    (read : List (String × Json)) :
    Becomes refused ((Members.prepend done rest).fields dialect depth strict layout read)
      ((Members.prepend done rest').fields dialect depth strict layout read) :=
  Members.becomes_fields_prepend_of_grows (P := fun _ => True) (fun _ _ _ => trivial)
    (fun read _ => h read) done read trivial

/-! ## Around the object -/

theorem Node.Gains.nullFor? {name : String} {v w w' : Node} {path : List Nat}
    (h : Node.Gains name v strict layout path shape w w') (presence : Presence) :
    w.nullFor? presence = none ∧ w'.nullFor? presence = none := by
  cases h <;> cases presence <;> exact ⟨rfl, rfl⟩

/-- **A document becomes what the object at the place becomes.** -/
theorem Node.Gains.becomes {name : String} {v w w' : Node} {path : List Nat}
    (h : Node.Gains name v strict layout path shape w w')
    (hobject : ∀ done rest, w.at? path = some (.object (.prepend done rest)) →
      ∀ depth, Becomes refused ((Members.prepend done rest).fields dialect depth strict layout [])
        ((Members.prepend done (.member (some name) v rest)).fields dialect depth strict layout []))
    (depth : Nat) :
    Becomes refused (w.conform dialect depth shape) (w'.conform dialect depth shape) := by
  induction h generalizing depth with
  | here done rest =>
    cases depth with
    | zero => exact .of_error _ _
    | succ depth =>
      simp only [Node.conform]
      exact (hobject done rest rfl depth).bind_left _
  | item done rest h ih =>
    cases depth with
    | zero => exact .of_error _ _
    | succ depth =>
      simp only [Node.at?_array] at hobject
      simp only [Node.conform]
      refine Becomes.bind_left (Items.becomes_conform_prepend ?_ done) _
      simp only [Items.conform]
      exact (ih hobject depth).bind_left _
  | @slot _ shape w w' outer fields done rest hslot h ih =>
    cases depth with
    | zero => exact .of_error _ _
    | succ depth =>
      simp only [Node.at?_array] at hobject
      simp only [Node.conform]
      unfold Layout.slot? at hslot
      cases hfields : fields.drop done.length with
      | nil =>
        rw [hfields] at hslot
        cases hslot
      | field key presence part others =>
        rw [hfields] at hslot
        obtain rfl := Option.some.inj hslot
        obtain ⟨hnull, hnull'⟩ := h.nullFor? presence
        refine Becomes.bind_left (Items.becomes_fields_prepend done (by simp [hfields]) ?_) _
        simp only [hfields, Items.fields, hnull, hnull', Option.getD_none]
        exact (ih hobject depth).bind_left _
  | @value _ shape w w' done key rest h ih =>
    cases depth with
    | zero => exact .of_error _ _
    | succ depth =>
      simp only [Node.at?_object] at hobject
      simp only [Node.conform]
      refine Becomes.bind_left (Members.becomes_conform_prepend (fun read => ?_) done []) _
      cases key with
      | none => exact .of_error _ _
      | some key =>
        simp only [Members.conform]
        exact (ih hobject depth).bind_left _
  | @field _ presence shape w w' outer fields done key rest hfield h ih =>
    cases depth with
    | zero => exact .of_error _ _
    | succ depth =>
      simp only [Node.at?_object] at hobject
      simp only [Node.conform]
      obtain ⟨hnull, hnull'⟩ := h.nullFor? presence
      refine Becomes.bind_left (Members.becomes_fields_prepend (fun read => ?_) done []) _
      simp only [Members.fields_member_declared hfield, hnull, hnull', Option.getD_none]
      split
      · exact .of_error _ _
      · exact (ih hobject depth).bind_left _

/-! ## In the object -/

variable {name : String} {v : Node}

/-- A strict record refuses a member that is not declared. -/
theorem Members.becomes_of_unknown (hname : layout.find? name = none)
    (done : List (Option String × Node)) (rest : Members) (depth : Nat) :
    Becomes true ((Members.prepend done rest).fields dialect depth true layout [])
      ((Members.prepend done (.member (some name) v rest)).fields dialect depth true layout
        []) := by
  refine Members.becomes_fields_prepend (fun read => ?_) done []
  rw [Members.fields_member_undeclared hname]
  exact .of_mismatch _

/-- A lax record passes over a member that is not declared, if nothing is wrong in its value. -/
theorem Members.becomes_of_passed (hname : layout.find? name = none) (hv : v.skipped = none)
    (done : List (Option String × Node)) (rest : Members) (depth : Nat) :
    Becomes false ((Members.prepend done rest).fields dialect depth false layout [])
      ((Members.prepend done (.member (some name) v rest)).fields dialect depth false layout
        []) := by
  refine Members.becomes_fields_prepend (fun read => ?_) done []
  rw [Members.fields_member_undeclared hname, hv]
  exact .refl _

/-- A name that was read before is refused when it comes again, wherever that is. -/
theorem Members.becomes_of_read {read read' : List (String × Json)} {rest : Members}
    (hrest : (some name, v) ∈ rest.entries) (hread : (read'.lookup name).isSome)
    (hothers : ∀ q, q ≠ name → (read'.lookup q).isSome = (read.lookup q).isSome) :
    Becomes true (rest.fields dialect depth true layout read)
      (rest.fields dialect depth true layout read') := by
  induction rest generalizing read read' with
  | stop ending => cases hrest
  | member key w rest ih =>
    cases key with
    | none => exact .of_error _ _
    | some key =>
      cases hfind : layout.find? key with
      | none =>
        rw [Members.fields_member_undeclared hfind]
        exact .of_error _ _
      | some field =>
        simp only [Members.fields_member_declared hfind]
        by_cases hkey : key = name
        · rw [hkey, if_pos hread]
          exact .of_mismatch _
        · have hlater : (some name, v) ∈ rest.entries := by
            refine (List.mem_cons.mp hrest).resolve_left fun heq => hkey ?_
            exact (Option.some.inj (Prod.mk.inj heq).1).symm
          rw [hothers key hkey]
          split
          · exact .of_error _ _
          · refine .bind_right (fun a => ih hlater ?_ fun q hq => ?_) _
            · rw [Table.lookup_cons, if_neg (Ne.symm hkey)]
              exact hread
            · rw [Table.lookup_cons, Table.lookup_cons]
              split
              · rfl
              · exact hothers q hq

/-- The value of a member of a record that is read is read itself. -/
theorem Members.exists_of_fields_eq_ok {presence : Presence} {read out : List (String × Json)}
    {rest : Members} (hfind : layout.find? name = some (presence, shape))
    (hrest : (some name, v) ∈ rest.entries)
    (h : rest.fields dialect depth true layout read = .ok out) :
    ∃ w, (v.nullFor? presence).getD (v.conform dialect depth shape) = .ok w := by
  induction rest generalizing read with
  | stop ending => cases hrest
  | member key u rest ih =>
    cases key with
    | none => cases h
    | some key =>
      cases hkey : layout.find? key with
      | none =>
        rw [Members.fields_member_undeclared hkey] at h
        cases h
      | some field =>
        rw [Members.fields_member_declared hkey] at h
        split at h
        · cases h
        · cases hu : (u.nullFor? field.1).getD (u.conform dialect depth field.2) with
          | error c =>
            rw [hu] at h
            cases h
          | ok w =>
            rw [hu] at h
            rcases List.mem_cons.mp hrest with heq | hrest
            · obtain ⟨hname, rfl⟩ := Prod.mk.inj heq
              obtain rfl := Option.some.inj hname
              obtain rfl := Option.some.inj (hfind.symm.trans hkey)
              exact ⟨w, hu⟩
            · exact ih hrest h

theorem Members.prepend_append (later earlier : List (Option String × Node)) (rest : Members) :
    Members.prepend (later ++ earlier) rest = .prepend earlier (.prepend later rest) := by
  induction later generalizing rest with
  | nil => rfl
  | cons m later ih => exact ih _

/-- A member is refused behind the same one: this one has been read when it comes. -/
theorem Members.becomes_of_repeated_behind {done : List (Option String × Node)}
    (h : (some name, v) ∈ done) (rest : Members) (depth : Nat) :
    Becomes true ((Members.prepend done rest).fields dialect depth true layout [])
      ((Members.prepend done (.member (some name) v rest)).fields dialect depth true layout
        []) := by
  obtain ⟨later, earlier, rfl⟩ := List.append_of_mem h
  have hsplit : ∀ others, Members.prepend (later ++ (some name, v) :: earlier) others =
      .prepend earlier (.member (some name) v (.prepend later others)) :=
    fun others => Members.prepend_append later _ others
  rw [hsplit, hsplit]
  refine Members.becomes_fields_prepend (fun read => ?_) earlier []
  cases hfind : layout.find? name with
  | none =>
    rw [Members.fields_member_undeclared hfind]
    exact .of_error _ _
  | some field =>
    rw [Members.fields_member_declared hfind, Members.fields_member_declared hfind]
    split
    · exact .of_error _ _
    · refine .bind_right (fun w => ?_) _
      refine Members.becomes_fields_prepend_of_grows (P := fun read => (read.lookup name).isSome)
        (fun f read hread => ?_) (fun read hread => ?_) later _ ?_
      · rw [Table.lookup_cons]
        split
        · rfl
        · exact hread
      · rw [Members.fields_member_declared hfind, if_pos hread]
        exact .of_mismatch _
      · rw [Table.lookup_cons, if_pos rfl]
        rfl

/-- A member is refused in front of the same one: it is read itself, and this one is refused. -/
theorem Members.becomes_of_repeated_in_front {rest : Members} (h : (some name, v) ∈ rest.entries)
    (done : List (Option String × Node)) (depth : Nat) :
    Becomes true ((Members.prepend done rest).fields dialect depth true layout [])
      ((Members.prepend done (.member (some name) v rest)).fields dialect depth true layout
        []) := by
  refine Members.becomes_fields_prepend (fun read => ?_) done []
  cases hfind : layout.find? name with
  | none =>
    rw [Members.fields_member_undeclared hfind]
    exact .of_mismatch _
  | some field =>
    rw [Members.fields_member_declared hfind]
    split
    · exact .of_mismatch _
    · intro out hout
      obtain ⟨w, hw⟩ := Members.exists_of_fields_eq_ok hfind h hout
      rw [hw]
      refine Members.becomes_of_read h ?_ (fun q hq => ?_) out hout
      · rw [Table.lookup_cons, if_pos rfl]
        rfl
      · rw [Table.lookup_cons, if_neg hq]

/-- **A strict record refuses a member that it has already**, whether the other one stands in front
of it or behind. -/
theorem Members.becomes_of_repeated {done : List (Option String × Node)} {rest : Members}
    (h : (some name, v) ∈ (Members.prepend done rest).entries) (depth : Nat) :
    Becomes true ((Members.prepend done rest).fields dialect depth true layout [])
      ((Members.prepend done (.member (some name) v rest)).fields dialect depth true layout
        []) := by
  rw [Members.entries_prepend, List.mem_append, List.mem_reverse] at h
  rcases h with hdone | hrest
  · exact Members.becomes_of_repeated_behind hdone rest depth
  · exact Members.becomes_of_repeated_in_front hrest done depth

end RouteMap.Json
