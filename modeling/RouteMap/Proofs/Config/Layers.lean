import RouteMap.Proofs.Config.Loading
import RouteMap.Proofs.Config.Variables

/-!
# The layers of a configuration

However a loader was set up, all that matters for the configuration are four things
(`Layers`): the last step that supplied a whole configuration, the last start of the names
of variables, the entries of all files of variables in their order, and the last outputs
that were asked for. Each step adds to them in its own way (`layers_take`), so a sequence of
steps comes to what its steps supply (`layers_takeAll`). Loading then takes the fields from
the variables of this start, those of the environment before those of files
(`get?_overrides`).
-/

namespace RouteMap.Loader

open Session

/-! ## What a step supplies -/

namespace Step

/-- The whole configuration that a step supplies. -/
def config? (fs : FileSystem) : Step → Option Config
  | .defaults => some {}
  | .text content format =>
    (Config.TextFormat.ofName? format).bind fun f => (Config.ofText f content).toOption
  | .file path | .optionalFile path =>
    (fs.read path).toOption.bind fun content => (Config.ofFileText path content).toOption
  | _ => none

/-- The start of the names of variables. -/
def start? : Step → Option String
  | .countFrom start => some (Text.upperCase start)
  | _ => none

/-- The outputs that a step asks for. -/
def outputs? : Step → Option (List Output)
  | .outputs os => some os
  | _ => none

/-- The entries of the file of variables at a path. -/
def entriesAt (e : Environment) (fs : FileSystem) (path : String) : List (String × String) :=
  ((fs.read path).toOption.bind (EnvFile.entries? e.behind?)).getD []

/-- The entries of the file of variables that a step reads. -/
def entries (e : Environment) (fs : FileSystem) : Step → List (String × String)
  | .envFile path => entriesAt e fs path
  | .nearestEnvFile =>
    ((envFilePaths e.depth).find? fun path => kindIn fs path = some .file).elim []
      (entriesAt e fs)
  | _ => []

/-- What the last step supplies that supplies anything. -/
def last? {α : Type} (supply : Step → Option α) (steps : List Step) : Option α :=
  steps.reverse.findSome? supply

theorem last?_cons {α : Type} (supply : Step → Option α) (step : Step) (steps : List Step) :
    last? supply (step :: steps) = (last? supply steps).or (supply step) := by
  unfold last?
  rw [List.reverse_cons, List.findSome?_append]
  cases h : supply step <;> simp [List.findSome?, h]

end Step

/-! ## Layers -/

/-- What a configuration is made of. -/
structure Layers where
  /-- The configuration without variables. -/
  base : Config
  /-- What the names of variables begin with, if they count at all. -/
  start : Option String
  /-- The variables from files, in their order. -/
  entries : List (String × String)
  /-- The outputs that are asked for. -/
  outputs : Option (List Output)

/-- The layers that steps come to, in an environment and on files. -/
def layersOf (e : Environment) (fs : FileSystem) (steps : List Step) : Layers where
  base := (Step.last? (Step.config? fs) steps).getD {}
  start := Step.last? Step.start? steps
  entries := steps.flatMap (Step.entries e fs)
  outputs := Step.last? Step.outputs? steps

namespace Layers

/-- The layers with what a step supplies. -/
def add (e : Environment) (fs : FileSystem) (y : Layers) (step : Step) : Layers where
  base := (step.config? fs).getD y.base
  start := step.start?.or y.start
  entries := y.entries ++ step.entries e fs
  outputs := step.outputs?.or y.outputs

/-- The effective value of a field: that of the process, else that of the first entry. -/
def text (y : Layers) (e : Environment) (f : Config.Field) : Option String :=
  y.start.bind fun start =>
    (e.get? (f.variableName start)).or (y.entries.lookup (f.variableName start))

/-- What the effective value of a field should have been, if it cannot be used. -/
def fault? (y : Layers) (e : Environment) (f : Config.Field) : Option Expectation :=
  (y.text e f).bind f.fault?

/-- The configuration with all effective values and the outputs that are asked for. -/
def config (y : Layers) (e : Environment) : Config :=
  let c := y.base.withTexts (y.text e)
  { c with outputs := y.outputs.getD c.outputs }

end Layers

/-- The layers of a loader: all but whether it has read a file. -/
def layers (l : Loader) : Layers := ⟨l.config, l.start, l.entries, l.outputs⟩

/-! ## Setting up -/

section

variable {e : Environment} {fs : FileSystem} {l l' : Loader}

theorem withText_eq_ok {text format : String} (h : l.withText text format = .ok l') :
    ∃ f c, Config.TextFormat.ofName? format = some f ∧ Config.ofText f text = .ok c ∧
      l' = { l with config := c } := by
  unfold withText at h
  split at h
  · next f hf =>
    cases hc : Config.ofText f text with
    | error cause => rw [hc] at h; cases h
    | ok c =>
      rw [hc] at h
      exact ⟨f, c, hf, hc, (Except.ok.inj h).symm⟩
  · cases h

theorem withFile_eq_ok {path : String} (h : ((l.withFile path).runOn fs).value = .ok l') :
    ∃ text c, fs.read path = .ok text ∧ Config.ofFileText path text = .ok c ∧
      l' = { l with config := c, fileLoaded := true } := by
  rw [value_withFile] at h
  split at h
  · cases h
  · split at h
    · cases h
    · next text htext =>
      cases hc : Config.ofFileText path text with
      | error cause => rw [hc] at h; cases h
      | ok c =>
        rw [hc] at h
        exact ⟨text, c, htext, hc, (Except.ok.inj h).symm⟩

theorem withEnvFile_eq_ok {path : String} (h : ((l.withEnvFile e path).runOn fs).value = .ok l') :
    l' = { l with entries := l.entries ++ Step.entriesAt e fs path } := by
  rw [value_withEnvFile] at h
  unfold Step.entriesAt
  split at h
  · cases h
  · cases h
  · next text htext =>
    unfold withEntries at h
    split at h
    · next entries hentries =>
      rw [htext]
      simp [Except.toOption, hentries, (Except.ok.inj h).symm]
    · cases h

/-- A path that leads nowhere is not read. -/
theorem read_of_kindIn_eq_none {path : String} (h : kindIn fs path = none) :
    (fs.read path).toOption = none := by
  unfold kindIn at h
  unfold FileSystem.read
  cases hlook : fs.look path with
  | error cause => rfl
  | ok entry =>
    rw [hlook] at h
    cases entry <;> cases h

attribute [local simp] layers Layers.add Step.config? Step.start? Step.outputs? Step.entries
  withDefaults withVariables withOutputs

/-- **Each step adds what it supplies**, and nothing else, to the layers of the loader. -/
theorem layers_take {step : Step} (h : ((l.take e step).runOn fs).value = .ok l') :
    l'.layers = l.layers.add e fs step := by
  cases step with
  | defaults =>
    obtain rfl := Except.ok.inj h
    simp
  | text text format =>
    obtain ⟨f, c, hf, hc, rfl⟩ := withText_eq_ok h
    simp [hf, hc, Except.toOption]
  | file path =>
    obtain ⟨text, c, htext, hc, rfl⟩ := withFile_eq_ok h
    simp [htext, hc, Except.toOption]
  | optionalFile path =>
    unfold take at h
    rw [value_withOptionalFile] at h
    split at h
    · next hkind =>
      -- without a file nothing is supplied
      obtain rfl := Except.ok.inj h
      simp [read_of_kindIn_eq_none hkind]
    · obtain ⟨text, c, htext, hc, rfl⟩ := withFile_eq_ok h
      simp [htext, hc, Except.toOption]
  | envFile path =>
    obtain rfl := withEnvFile_eq_ok h
    rfl
  | nearestEnvFile =>
    unfold take at h
    rw [value_withNearestEnvFile] at h
    split at h
    · next hnone =>
      obtain rfl := Except.ok.inj h
      simp [hnone]
    · next path hpath =>
      obtain rfl := withEnvFile_eq_ok h
      simp [hpath]
  | countFrom start =>
    obtain rfl := Except.ok.inj h
    simp
  | outputs os =>
    obtain rfl := Except.ok.inj h
    simp

/-- The layers that steps add to those before. -/
theorem layers_takeAll_foldl {steps : List Step}
    (h : ((l.takeAll e steps).runOn fs).value = .ok l') :
    l'.layers = steps.foldl (Layers.add e fs) l.layers := by
  induction steps generalizing l with
  | nil =>
    obtain rfl := Except.ok.inj h
    rfl
  | cons step steps ih =>
    rw [value_takeAll_cons] at h
    cases hstep : ((l.take e step).runOn fs).value with
    | error cause =>
      rw [hstep] at h
      cases h
    | ok mid =>
      rw [hstep] at h
      rw [ih h, layers_take hstep]
      rfl

theorem foldl_add (steps : List Step) (y : Layers) :
    steps.foldl (Layers.add e fs) y =
      { base := (Step.last? (Step.config? fs) steps).getD y.base
        start := (Step.last? Step.start? steps).or y.start
        entries := y.entries ++ steps.flatMap (Step.entries e fs)
        outputs := (Step.last? Step.outputs? steps).or y.outputs } := by
  induction steps generalizing y with
  | nil => simp [Step.last?]
  | cons step steps ih =>
    rw [List.foldl_cons, ih]
    -- what a later step supplies comes before what this one does
    simp only [Step.last?_cons, Layers.add, List.flatMap_cons, List.append_assoc, Option.or_assoc,
      Option.getD_or]

/-- **Steps that succeed come to the layers that they supply.** -/
theorem layers_takeAll {steps : List Step}
    (h : ((takeAll e {} steps).runOn fs).value = .ok l) : l.layers = layersOf e fs steps := by
  rw [layers_takeAll_foldl h, foldl_add]
  simp [layersOf, layers]

end

/-! ## Variables -/

section

variable (l : Loader) (e : Environment) (start : String)

/-- The environment comes before the entries, of which the first counts. -/
theorem get?_overrides {name : String} (h : (start ++ "__").toList <+: name.toList) :
    (l.overrides e start).get? name = (e.get? name).or (l.entries.lookup name) := by
  have hcounts : (start ++ "__").toList.isPrefixOf name.toList = true :=
    List.isPrefixOf_iff_prefix.mpr h
  unfold overrides Environment.get?
  rw [Table.get?_foldl_insert, Table.get?_ofListFirst, ← List.filter_reverse,
    Table.lookup_filter (fun n => (start ++ "__").toList.isPrefixOf n.toList) hcounts,
    Table.lookup_filter (fun n => (start ++ "__").toList.isPrefixOf n.toList) hcounts]

/-- Other names do not count. -/
theorem start_of_mem_overrides {v : String × String} (h : v ∈ (l.overrides e start).entries) :
    (start ++ "__").toList <+: v.1.toList := by
  rw [← List.isPrefixOf_iff_prefix]
  by_contra hcounts
  have hget := Table.mem_entries_iff.mp h
  unfold overrides at hget
  rw [Table.get?_foldl_insert, Table.get?_ofListFirst, ← List.filter_reverse,
    Table.lookup_filter_of_not (fun n => (start ++ "__").toList.isPrefixOf n.toList) hcounts,
    Table.lookup_filter_of_not (fun n => (start ++ "__").toList.isPrefixOf n.toList) hcounts]
    at hget
  cases hget

end

/-! ## Loading -/

section

variable {l : Loader} {e : Environment} {start : String}

/-- The variables hold the effective values. -/
theorem textOf_overrides (hstart : l.start = some start) :
    Config.textOf start (l.overrides e start).entries = l.layers.text e := by
  funext f
  have hname : (start ++ "__").toList <+: (f.variableName start).toList :=
    Config.Field.named_isOk_iff.mp ⟨_, Config.Field.named_eq_some_iff.mpr rfl⟩
  show (l.overrides e start).get? _ = _
  rw [get?_overrides l e start hname]
  unfold Layers.text layers
  rw [hstart]
  rfl

/-- A variable at fault is that of a field with such an effective value. -/
theorem exists_field_of_fault (hstart : l.start = some start) {v : String × String}
    (hv : v ∈ (l.overrides e start).entries) {expected : Expectation}
    (h : Config.fault? start v = some expected) :
    ∃ f, v.1 = f.variableName start ∧ l.layers.fault? e f = some expected := by
  obtain ⟨named, hnamed⟩ := Config.Field.named_isOk_iff.mpr (start_of_mem_overrides l e start hv)
  unfold Config.fault? at h
  rw [hnamed] at h
  cases named with
  | none => cases h
  | some f =>
    have hname := Config.Field.named_eq_some_iff.mp hnamed
    have htext : l.layers.text e f = some v.2 := by
      rw [← textOf_overrides hstart]
      show (l.overrides e start).get? _ = _
      rw [← hname]
      exact Table.mem_entries_iff.mp hv
    refine ⟨f, hname, ?_⟩
    unfold Layers.fault?
    rw [htext]
    exact h

/-- An effective value at fault is that of a variable. -/
theorem exists_variable_of_fault (hstart : l.start = some start) {f : Config.Field}
    (h : l.layers.fault? e f ≠ none) :
    ∃ v ∈ (l.overrides e start).entries, Config.fault? start v ≠ none := by
  unfold Layers.fault? at h
  rw [← textOf_overrides hstart] at h
  cases htext : Config.textOf start (l.overrides e start).entries f with
  | none =>
    rw [htext] at h
    exact absurd rfl h
  | some text =>
    rw [htext] at h
    refine ⟨(f.variableName start, text), Table.mem_entries_iff.mpr htext, ?_⟩
    unfold Config.fault?
    rw [Config.Field.named_eq_some_iff.mpr rfl]
    exact h

theorem withAskedOutputs_eq (l : Loader) (c : Config) :
    l.withAskedOutputs c = { c with outputs := l.outputs.getD c.outputs } := by
  unfold withAskedOutputs
  cases l.outputs <;> rfl

theorem resolve_of_sound (h : ∀ f, l.layers.fault? e f = none) :
    l.resolve e = .ok (l.layers.config e) := by
  unfold resolve
  cases hstart : l.start with
  | none =>
    have htext : l.layers.text e = fun _ => none := by
      funext f
      unfold Layers.text layers
      rw [hstart]
      rfl
    simp only [withAskedOutputs_eq, Layers.config, htext]
    rfl
  | some start =>
    have hsound : ∀ v ∈ (l.overrides e start).entries, Config.fault? start v = none := by
      intro v hv
      cases hfault : Config.fault? start v with
      | none => rfl
      | some expected =>
        obtain ⟨f, -, hf⟩ := exists_field_of_fault hstart hv hfault
        rw [h f] at hf
        cases hf
    show (Config.overrideAll start l.config _).map _ = _
    rw [Config.overrideAll_of_sound start (l.overrides e start).distinct hsound,
      textOf_overrides hstart]
    exact congrArg Except.ok (l.withAskedOutputs_eq _)

theorem resolve_of_fault {f : Config.Field} (h : l.layers.fault? e f ≠ none) :
    ∃ start g expected, l.start = some start ∧ l.layers.fault? e g = some expected ∧
      l.resolve e = .error (.invalidVariable (g.variableName start) expected) := by
  unfold resolve
  cases hstart : l.start with
  | none =>
    unfold Layers.fault? Layers.text layers at h
    rw [hstart] at h
    exact absurd rfl h
  | some start =>
    obtain ⟨v, hv, hfault⟩ := exists_variable_of_fault hstart h
    obtain ⟨w, hw, expected, hexpected, herror⟩ :=
      Config.overrideAll_of_fault start hv hfault l.config
    obtain ⟨g, hname, hg⟩ := exists_field_of_fault hstart hw hexpected
    refine ⟨start, g, expected, rfl, hg, ?_⟩
    show (Config.overrideAll start l.config _).map _ = _
    rw [herror, hname]
    rfl

theorem load_of_sound (h : ∀ f, l.layers.fault? e f = none) :
    l.load e = (l.layers.config e).validate.map fun _ => l.layers.config e := by
  unfold load
  rw [resolve_of_sound h]
  show ((l.layers.config e).validate >>= fun _ => _) = _
  cases (l.layers.config e).validate <;> rfl

theorem load_of_fault {f : Config.Field} (h : l.layers.fault? e f ≠ none) :
    ∃ start g expected, l.start = some start ∧ l.layers.fault? e g = some expected ∧
      l.load e = .error (.invalidVariable (g.variableName start) expected) := by
  obtain ⟨start, g, expected, hstart, hg, herror⟩ := resolve_of_fault h
  refine ⟨start, g, expected, hstart, hg, ?_⟩
  unfold load
  rw [herror]
  rfl

/-- Loading ends in one of two ways: at a fault, or with the question whether the
configuration is valid. -/
theorem load_cases (l : Loader) (e : Environment) :
    (∃ start f expected, l.start = some start ∧ l.layers.fault? e f = some expected ∧
        l.load e = .error (.invalidVariable (f.variableName start) expected)) ∨
      (∀ f, l.layers.fault? e f = none) ∧
        l.load e = (l.layers.config e).validate.map fun _ => l.layers.config e := by
  by_cases h : ∀ f, l.layers.fault? e f = none
  · exact .inr ⟨h, load_of_sound h⟩
  · obtain ⟨f, hf⟩ := not_forall.mp h
    exact .inl (load_of_fault hf)

/-- Only the effective values of the environment matter. -/
theorem toOption_load_congr {e' : Environment}
    (h : ∀ f, l.layers.text e' f = l.layers.text e f) :
    (l.load e').toOption = (l.load e).toOption := by
  have htext : l.layers.text e' = l.layers.text e := funext h
  have hfault : l.layers.fault? e' = l.layers.fault? e := by
    unfold Layers.fault?
    rw [htext]
  have hconfig : l.layers.config e' = l.layers.config e := by
    unfold Layers.config
    rw [htext]
  rcases load_cases l e with ⟨start, f, expected, -, hf, hload⟩ | ⟨hsound, hload⟩
  · -- the other environment has this fault too, though another may be named
    obtain ⟨start', g, expected', -, -, hload'⟩ :=
      load_of_fault (by rw [hfault, hf]; simp : l.layers.fault? e' f ≠ none)
    rw [hload, hload']
    rfl
  · rw [load_of_sound (hfault ▸ hsound), hload, hconfig]

end

/-- Loading fails if an effective value is at fault or the configuration is not valid, and
names one of these faults; otherwise it gives the configuration of the layers. -/
theorem load_spec (l : Loader) (e : Environment) :
    ((∃ cause, l.load e = .error cause) ↔
        (∃ f, l.layers.fault? e f ≠ none) ∨
          ∃ cause, (l.layers.config e).validate = .error cause) ∧
      (∀ c, l.load e = .ok c → c = l.layers.config e) ∧
      (∀ cause, l.load e = .error cause →
        (∃ start f expected, l.layers.start = some start ∧ l.layers.fault? e f = some expected ∧
            cause = .invalidVariable (f.variableName start) expected) ∨
          (∀ f, l.layers.fault? e f = none) ∧
            (l.layers.config e).validate = .error cause) := by
  rw [← and_assoc]
  rcases load_cases l e with ⟨start, f, expected, hstart, hf, hload⟩ | ⟨hsound, hload⟩
  · -- an effective value is at fault
    have hfault : l.layers.fault? e f ≠ none := by
      rw [hf]
      simp
    rw [hload]
    refine ⟨⟨⟨fun _ => .inl ⟨f, hfault⟩, fun _ => ⟨_, rfl⟩⟩, ?_⟩, ?_⟩
    · intro c hc
      cases hc
    · intro cause hcause
      exact .inl ⟨start, f, expected, hstart, hf, (Except.error.inj hcause).symm⟩
  · cases hvalid : (l.layers.config e).validate with
    | ok _ =>
      have hload : l.load e = .ok (l.layers.config e) := by
        rw [hload, hvalid]
        rfl
      rw [hload]
      refine ⟨⟨⟨?_, ?_⟩, ?_⟩, ?_⟩
      · rintro ⟨cause, hcause⟩
        cases hcause
      · rintro (⟨f, hf⟩ | ⟨cause, hcause⟩)
        · exact absurd (hsound f) hf
        · cases hcause
      · intro c hc
        exact (Except.ok.inj hc).symm
      · intro cause hcause
        cases hcause
    | error cause =>
      have hload : l.load e = .error cause := by
        rw [hload, hvalid]
        rfl
      rw [hload]
      refine ⟨⟨⟨fun _ => .inr ⟨cause, rfl⟩, fun _ => ⟨cause, rfl⟩⟩, ?_⟩, ?_⟩
      · intro c hc
        cases hc
      · intro other hother
        obtain rfl := Except.error.inj hother
        exact .inr ⟨hsound, rfl⟩

end RouteMap.Loader
