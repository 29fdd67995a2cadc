import RouteMap.Config.Variables
import RouteMap.Proofs.Table

/-!
# Variables in any order

The name of a variable says exactly which field it replaces (`Field.named_eq_some_iff`), and
whether a text can be the value of a field does not depend on the configuration
(`Field.set_eq`). So variables with distinct names come to one text for each field at most:
applying them one after another fails at the first that is at fault, or else gives the
configuration whose fields come from these texts (`overrideAll_eq`). Neither the texts nor
whether there is a fault depend on the order.
-/

namespace RouteMap.Config

/-! ## Names -/

theorem parts_ne_nil (cs : List Char) : parts cs ≠ [] := by
  fun_cases parts cs <;> simp_all

/-- The parts of a name with two underscores between each two neighbours are the name. -/
theorem intercalate_parts (cs : List Char) : ['_', '_'].intercalate (parts cs) = cs := by
  fun_induction parts cs with
  | case1 => rfl
  | case2 cs ih =>
    obtain ⟨p, ps, hparts⟩ := List.exists_cons_of_ne_nil (parts_ne_nil cs)
    rw [hparts] at ih ⊢
    rw [List.intercalate_cons_cons, ih]
    rfl
  | case3 c cs _ hparts => exact absurd hparts (parts_ne_nil cs)
  | case4 c cs _ p ps hparts ih =>
    rw [hparts] at ih
    -- the first part grows by one character, whatever stands behind it
    cases ps with
    | nil => simpa [List.intercalate] using ih
    | cons q qs =>
      rw [List.intercalate_cons_cons] at ih ⊢
      rw [List.cons_append, List.cons_append, ih]

/-- The parts with two underscores between them are the name again. -/
theorem join_parts (cs : List Char) :
    Text.join "__" ((parts cs).map String.ofList) = String.ofList cs := by
  have hparts : ((parts cs).map String.ofList).map String.toList = parts cs := by
    rw [List.map_map]
    exact List.map_id'' (fun _ => String.toList_ofList) _
  unfold Text.join
  rw [hparts]
  exact congrArg String.ofList (intercalate_parts cs)

namespace Field

theorem ofPath?_path (f : Field) : ofPath? f.path = some f := by
  cases f <;> decide

theorem path_of_ofPath? {path : List String} {f : Field} (h : ofPath? path = some f) :
    f.path = path := by
  simpa using List.find?_some h

theorem parts_path (f : Field) :
    (parts (Text.join "__" f.path).toList).map String.ofList = f.path := by
  cases f <;> decide

/-- **A variable belongs to a field if it has the name of the field**, and to no other. -/
theorem named_eq_some_iff {start name : String} {f : Field} :
    named start name = .ok (some f) ↔ name = f.variableName start := by
  constructor
  · intro h
    unfold named at h
    split at h
    · contradiction
    · next rest hrest =>
      -- the parts of what is behind the start determine it
      have hpath : f.path = (parts rest).map String.ofList := path_of_ofPath? (Except.ok.inj h)
      unfold variableName
      rw [hpath, join_parts, ← String.toList_inj, String.toList_append, String.toList_ofList]
      exact Text.eq_append_of_after? hrest
  · rintro rfl
    unfold named variableName
    rw [String.toList_append (s := start ++ "__"), Text.after?_append]
    show Except.ok (ofPath? _) = _
    rw [parts_path, ofPath?_path]

theorem variableName_inj {start : String} {f g : Field}
    (h : f.variableName start = g.variableName start) : f = g := by
  have hf := named_eq_some_iff.mpr (rfl : f.variableName start = f.variableName start)
  rw [h, named_eq_some_iff.mpr rfl] at hf
  exact (Option.some.inj (Except.ok.inj hf)).symm

theorem named_isOk_iff {start name : String} :
    (∃ f, named start name = .ok f) ↔ (start ++ "__").toList <+: name.toList := by
  unfold named
  constructor
  · rintro ⟨f, h⟩
    split at h
    · contradiction
    · next rest hrest => exact ⟨rest, (Text.eq_append_of_after? hrest).symm⟩
  · rintro ⟨rest, hrest⟩
    rw [← hrest, Text.after?_append]
    exact ⟨_, rfl⟩

/-! ## Values -/

/-- What a text should have been to be the value of a field, if it cannot be. -/
def fault? : Field → String → Option Expectation
  | outputs, text =>
    match Output.listOf text with
    | .ok _ => none
    | .error _ => some .outputs
  | backendPort, text =>
    match portOf text with
    | .ok _ => none
    | .error _ => some .port
  | logEnabled, text =>
    match flagOf? text with
    | some _ => none
    | none => some .flag
  | logFormat, text =>
    match Log.Format.ofText? text with
    | some _ => none
    | none => some .logFormat
  | _, _ => none

theorem expectation_of_portOf {text : String} {x : Expectation} (h : portOf text = .error x) :
    x = .port := by
  unfold portOf at h
  split at h
  · cases h
  · cases hport : Text.port? (Text.trimmed text) <;> rw [hport] at h
    · exact (Except.error.inj h).symm
    · cases h

theorem fault?_ne_name (f : Field) (text : String) : f.fault? text ≠ some .name := by
  cases f <;> simp only [fault?] <;> (try split) <;> simp

end Field

/-- The configuration with the fields for which there are texts taken from these texts. The
annotations in a text come to those of the configuration; everywhere else the value of the
text takes the place of the value before. -/
def withTexts (c : Config) (text : Field → Option String) : Config where
  version := (text .version).elim c.version nonempty
  outputs := (text .outputs).elim c.outputs fun t => (Output.listOf t).toOption.getD c.outputs
  mappingFile := (text .mappingFile).elim c.mappingFile nonempty
  docsFile := (text .docsFile).elim c.docsFile nonempty
  backendHost := (text .backendHost).elim c.backendHost nonempty
  backendPort := (text .backendPort).elim c.backendPort fun t =>
    (portOf t).toOption.getD c.backendPort
  action := (text .action).elim c.action nonempty
  filter := (text .filter).elim c.filter nonempty
  applicationPath := (text .applicationPath).elim c.applicationPath nonempty
  registry := (text .registry).elim c.registry fun t => c.registry.merge (Registry.ofText t)
  logging :=
    { enabled := (text .logEnabled).elim c.logging.enabled fun t =>
        (flagOf? t).getD c.logging.enabled
      directives := (text .logDirectives).getD c.logging.directives
      format := (text .logFormat).elim c.logging.format fun t =>
        (Log.Format.ofText? t).getD c.logging.format }

/-- The text of one field. -/
def only (f : Field) (text : String) (g : Field) : Option String :=
  if g = f then some text else none

/-- **A text is the value of a field in every configuration or in none**, and changes
nothing but this field. -/
theorem Field.set_eq (c : Config) (text : String) (f : Field) :
    f.set c text = match f.fault? text with
      | some expected => .error expected
      | none => .ok (c.withTexts (only f text)) := by
  cases f with
  | outputs =>
    cases h : Output.listOf text <;>
      simp [set, fault?, withTexts, only, h, Except.toOption]
  | backendPort =>
    cases h : portOf text with
    | error x => simp [set, fault?, h, Except.map, expectation_of_portOf h]
    | ok p => simp [set, fault?, withTexts, only, h, Except.map, Except.toOption]
  | logEnabled => cases h : flagOf? text <;> simp [set, fault?, withTexts, only, h]
  | logFormat => cases h : Log.Format.ofText? text <;> simp [set, fault?, withTexts, only, h]
  | _ => rfl

/-- A field that no later text is for keeps its text. -/
theorem withTexts_withTexts (c : Config) {f : Field} (text : String)
    {texts : Field → Option String} (h : texts f = none) :
    (c.withTexts (only f text)).withTexts texts =
      c.withTexts fun g => if g = f then some text else texts g := by
  cases f <;> simp [withTexts, only, h]

/-! ## One variable -/

section

variable (start : String)

/-- The text for a field among variables. -/
def textOf (vs : List (String × String)) (f : Field) : Option String :=
  vs.lookup (f.variableName start)

/-- What a variable should have been, if no configuration takes it. -/
def fault? (v : String × String) : Option Expectation :=
  match Field.named start v.1 with
  | .error expected => some expected
  | .ok none => none
  | .ok (some f) => f.fault? v.2

/-- A variable that belongs to a field is the text for this field. -/
theorem textOf_cons_of_named {v : String × String} {f : Field}
    (h : Field.named start v.1 = .ok (some f)) (vs : List (String × String)) :
    textOf start (v :: vs) = fun g => if g = f then some v.2 else textOf start vs g := by
  funext g
  unfold textOf
  rw [Table.lookup_cons, Field.named_eq_some_iff.mp h]
  by_cases hg : g = f
  · rw [if_pos hg, if_pos (congrArg _ hg)]
  · rw [if_neg hg, if_neg fun heq => hg (Field.variableName_inj heq)]

/-- A variable that belongs to no field is the text for none. -/
theorem textOf_cons_of_unnamed {v : String × String} (h : Field.named start v.1 = .ok none)
    (vs : List (String × String)) : textOf start (v :: vs) = textOf start vs := by
  funext g
  unfold textOf
  rw [Table.lookup_cons, if_neg]
  intro heq
  rw [Field.named_eq_some_iff.mpr heq.symm] at h
  cases h

/-- **A variable is at fault in every configuration or in none**, and otherwise gives its
text to its field. -/
theorem override_eq (c : Config) (v : String × String) :
    override start c v.1 v.2 = match fault? start v with
      | some expected => .error (.invalidVariable v.1 expected)
      | none => .ok (c.withTexts (textOf start [v])) := by
  unfold override fault?
  cases hnamed : Field.named start v.1 with
  | error expected => rfl
  | ok named =>
    cases named with
    | none =>
      rw [textOf_cons_of_unnamed start hnamed]
      rfl
    | some f =>
      have htext : textOf start [v] = only f v.2 := textOf_cons_of_named start hnamed []
      show (f.set c v.2).mapError _ = _
      rw [Field.set_eq, htext]
      cases hfault : f.fault? v.2 <;> simp only [hfault] <;> rfl

/-- The texts of a variable and of others with other names come to the texts of all. -/
theorem withTexts_textOf_cons {v : String × String} {vs : List (String × String)}
    (hfault : fault? start v = none) (hnew : v.1 ∉ vs.map Prod.fst) (c : Config) :
    (c.withTexts (textOf start [v])).withTexts (textOf start vs) =
      c.withTexts (textOf start (v :: vs)) := by
  cases hnamed : Field.named start v.1 with
  | error expected =>
    unfold fault? at hfault
    rw [hnamed] at hfault
    cases hfault
  | ok named =>
    cases named with
    | none =>
      rw [textOf_cons_of_unnamed start hnamed, textOf_cons_of_unnamed start hnamed]
      rfl
    | some f =>
      have hlater : textOf start vs f = none := by
        apply Table.lookup_eq_none_of_not_mem
        rwa [← Field.named_eq_some_iff.mp hnamed]
      have htext : textOf start [v] = only f v.2 := textOf_cons_of_named start hnamed []
      rw [htext, withTexts_withTexts c v.2 hlater, textOf_cons_of_named start hnamed]

/-! ## All variables -/

theorem overrideAll_cons (c : Config) (v : String × String) (vs : List (String × String)) :
    overrideAll start c (v :: vs) =
      (override start c v.1 v.2).bind fun c => overrideAll start c vs := rfl

/-- **Variables without fault and with distinct names give each field its text.** -/
theorem overrideAll_of_sound {vs : List (String × String)} (hnames : (vs.map Prod.fst).Nodup)
    (hsound : ∀ v ∈ vs, fault? start v = none) (c : Config) :
    overrideAll start c vs = .ok (c.withTexts (textOf start vs)) := by
  induction vs generalizing c with
  | nil => rfl
  | cons v vs ih =>
    obtain ⟨hnew, hnames⟩ := List.nodup_cons.mp hnames
    have hv := hsound v List.mem_cons_self
    rw [overrideAll_cons, override_eq, hv]
    show overrideAll start (c.withTexts (textOf start [v])) vs = _
    rw [ih hnames fun w hw => hsound w (List.mem_cons_of_mem v hw),
      withTexts_textOf_cons start hv hnew]

/-- **Variables one of which is at fault fail**, and the failure names one of those that
are. -/
theorem overrideAll_of_fault {vs : List (String × String)} {v : String × String} (hv : v ∈ vs)
    (hfault : fault? start v ≠ none) (c : Config) :
    ∃ w ∈ vs, ∃ expected, fault? start w = some expected ∧
      overrideAll start c vs = .error (.invalidVariable w.1 expected) := by
  induction vs generalizing c with
  | nil => cases hv
  | cons u vs ih =>
    rw [overrideAll_cons, override_eq]
    cases hu : fault? start u with
    | some expected => exact ⟨u, List.mem_cons_self, expected, hu, rfl⟩
    | none =>
      -- the first one is sound, so the fault is behind it
      rcases List.mem_cons.mp hv with rfl | hv
      · exact absurd hu hfault
      · obtain ⟨w, hw, expected, hexpected, herror⟩ := ih hv (c.withTexts (textOf start [u]))
        exact ⟨w, List.mem_cons_of_mem u hw, expected, hexpected, herror⟩

end

/-! ## The order of variables -/

/-- Every configuration takes a variable. -/
def Accepted (start : String) (v : String × String) : Prop :=
  ∀ c : Config, ∃ c', override start c v.1 v.2 = .ok c'

/-- No configuration takes a variable, and its value is the reason. -/
def Refused (start : String) (v : String × String) (expected : Expectation) : Prop :=
  expected ≠ .name ∧
    ∀ c : Config, override start c v.1 v.2 = .error (.invalidVariable v.1 expected)

section

variable {start : String} {v : String × String}

theorem accepted_of_sound (h : fault? start v = none) : Accepted start v := by
  intro c
  rw [override_eq, h]
  exact ⟨_, rfl⟩

theorem refused_of_fault (hname : (start ++ "__").toList <+: v.1.toList)
    {expected : Expectation} (h : fault? start v = some expected) : Refused start v expected := by
  constructor
  · -- the name is as it should be, so the fault is one of the value
    obtain ⟨named, hnamed⟩ := Field.named_isOk_iff.mpr hname
    unfold fault? at h
    rw [hnamed] at h
    cases named with
    | none => cases h
    | some f =>
      rintro rfl
      exact f.fault?_ne_name v.2 h
  · intro c
    rw [override_eq, h]

theorem accepted_or_refused (hname : (start ++ "__").toList <+: v.1.toList) :
    Accepted start v ∨ ∃ expected, Refused start v expected := by
  cases h : fault? start v with
  | none => exact .inl (accepted_of_sound h)
  | some expected => exact .inr ⟨expected, refused_of_fault hname h⟩

end

/-- **The order of variables does not matter.** Variables with distinct names, each with a
name that begins with the start and two underscores, are applied in two orders. Whether a
variable is accepted is settled by itself. If all are, both orders give one configuration; if
not, both fail, and each names a variable that is refused by itself. -/
theorem overrideAll_perm {start : String} {vs vs' : List (String × String)}
    (hperm : vs.Perm vs') (hnames : (vs.map Prod.fst).Nodup)
    (hstart : ∀ v ∈ vs, (start ++ "__").toList <+: v.1.toList) (c : Config) :
    (∀ v ∈ vs, Accepted start v ∨ ∃ expected, Refused start v expected) ∧
      (((∀ v ∈ vs, Accepted start v) ∧
          ∃ c', overrideAll start c vs = .ok c' ∧ overrideAll start c vs' = .ok c') ∨
        ((∃ v ∈ vs, ∃ expected, Refused start v expected ∧
            overrideAll start c vs = .error (.invalidVariable v.1 expected)) ∧
          ∃ v ∈ vs, ∃ expected, Refused start v expected ∧
            overrideAll start c vs' = .error (.invalidVariable v.1 expected))) := by
  refine ⟨fun v hv => accepted_or_refused (hstart v hv), ?_⟩
  by_cases hfault : ∃ v ∈ vs, fault? start v ≠ none
  · -- the fault is found in either order, though perhaps not the same one
    obtain ⟨v, hv, hfault⟩ := hfault
    obtain ⟨w, hw, expected, hexpected, herror⟩ := overrideAll_of_fault start hv hfault c
    obtain ⟨w', hw', expected', hexpected', herror'⟩ :=
      overrideAll_of_fault start (hperm.mem_iff.mp hv) hfault c
    have hw' := hperm.mem_iff.mpr hw'
    exact .inr ⟨⟨w, hw, expected, refused_of_fault (hstart w hw) hexpected, herror⟩,
      w', hw', expected', refused_of_fault (hstart w' hw') hexpected', herror'⟩
  · have hsound : ∀ v ∈ vs, fault? start v = none := by
      intro v hv
      by_contra hne
      exact hfault ⟨v, hv, hne⟩
    have hsound' : ∀ v ∈ vs', fault? start v = none := fun v hv =>
      hsound v (hperm.mem_iff.mpr hv)
    have hnames' : (vs'.map Prod.fst).Nodup := (hperm.map Prod.fst).nodup_iff.mp hnames
    -- a search by name meets the same texts in either order
    have htexts : textOf start vs = textOf start vs' := by
      funext f
      exact Table.lookup_perm hperm hnames _
    refine .inl ⟨fun v hv => accepted_of_sound (hsound v hv), _,
      overrideAll_of_sound start hnames hsound c, ?_⟩
    rw [htexts]
    exact overrideAll_of_sound start hnames' hsound' c

/-- Variables two of which are at fault, beside one that means nothing. -/
def twoFaults : List (String × String) :=
  [("A__BACKEND__PORT", "65536"), ("A__LOGGING__ENABLED", "maybe"), ("A___MAPPING__VERSION", "v1")]

theorem overrideAll_perm_two_faults :
    (∃ v ∈ twoFaults, ∃ expected, Refused "A" v expected ∧
        overrideAll "A" {} twoFaults = .error (.invalidVariable v.1 expected)) ∧
      ∃ v ∈ twoFaults, ∃ expected, Refused "A" v expected ∧
        overrideAll "A" {} twoFaults.reverse = .error (.invalidVariable v.1 expected) := by
  have hperm : twoFaults.Perm twoFaults.reverse := twoFaults.reverse_perm.symm
  have hstart : ∀ v ∈ twoFaults, ("A" ++ "__").toList <+: v.1.toList := by decide
  rcases (overrideAll_perm hperm (by decide) hstart {}).2 with ⟨haccepted, -⟩ | hrefused
  · obtain ⟨c, hc⟩ := haccepted ("A__BACKEND__PORT", "65536") List.mem_cons_self {}
    have herror : override "A" {} "A__BACKEND__PORT" "65536" =
        .error (.invalidVariable "A__BACKEND__PORT" .port) := by decide
    cases herror.symm.trans hc
  · exact hrefused

end RouteMap.Config
