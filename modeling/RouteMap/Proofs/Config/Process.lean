import RouteMap.Proofs.Config.Layers

/-!
# Loading in a process

A process has its variables as bytes. A loader reads all of them, whatever their names, if variables
count at all, so it panics exactly if one of them is no text (`finish_eq_panic_iff`). Otherwise no
variable is left out (`texts_of_isText`) and the configuration is that of the layers: this is the
law of loading, `finish_takeAll`.
-/

namespace RouteMap

/-! ## Variables that are texts -/

namespace Environment

variable {e : Environment}

theorem isText_eq_false_iff :
    e.isText = false ↔ ∃ v ∈ e.assignments, v.1.text? = none ∨ v.2.text? = none := by
  unfold isText RawText.isText
  simp only [List.all_eq_false, Bool.and_eq_true, Option.isSome_iff_ne_none, ne_eq, not_and_or,
    not_not]

/-- If all variables are texts, none is left out. -/
theorem texts_of_isText (h : e.isText = true) :
    e.texts.map (fun v => ((v.1 : RawText), (v.2 : RawText))) = e.assignments := by
  obtain ⟨assignments, depth⟩ := e
  unfold isText at h
  unfold texts
  dsimp only at h ⊢
  induction assignments with
  | nil => rfl
  | cons v vs ih =>
    rw [List.all_cons, Bool.and_eq_true, Bool.and_eq_true] at h
    obtain ⟨⟨hname, hvalue⟩, hrest⟩ := h
    obtain ⟨name, hname⟩ := RawText.isText_iff.mp hname
    obtain ⟨value, hvalue⟩ := RawText.isText_iff.mp hvalue
    obtain rfl : v = (.text name, .text value) := Prod.ext hname hvalue
    exact congrArg (List.cons _) (ih hrest)

end Environment

namespace Loader

open Session

/-! ## Panics -/

section

variable {l : Loader} {e : Environment}

theorem toOption_mapError {ε ε' α : Type} (f : ε → ε') (x : Except ε α) :
    (x.mapError f).toOption = x.toOption := by
  cases x <;> rfl

/-- A process panics exactly if variables count and one of them is no text. -/
theorem finish_eq_panic_iff :
    l.finish e = .error .panic ↔
      l.start.isSome ∧ ∃ v ∈ e.assignments, v.1.text? = none ∨ v.2.text? = none := by
  rw [← Environment.isText_eq_false_iff]
  unfold finish
  cases l.start.isSome <;> cases e.isText <;> cases l.load e <;> simp [Except.mapError]

/-- Otherwise it loads the configuration. -/
theorem finish_of_ne_panic (h : l.finish e ≠ .error .panic) :
    l.finish e = (l.load e).mapError .reported := by
  unfold finish at h ⊢
  split at h
  · exact absurd rfl h
  · next hcounts => rw [if_neg hcounts]

theorem finish_eq_ok_iff {c : Config} :
    l.finish e = .ok c ↔ l.finish e ≠ .error .panic ∧ l.load e = .ok c := by
  by_cases h : l.finish e = .error .panic
  · simp [h]
  · rw [and_iff_right h, finish_of_ne_panic h]
    cases l.load e <;> simp [Except.mapError]

theorem finish_eq_reported_iff {cause : ConfigError} :
    l.finish e = .error (.reported cause) ↔
      l.finish e ≠ .error .panic ∧ l.load e = .error cause := by
  by_cases h : l.finish e = .error .panic
  · simp [h]
  · rw [and_iff_right h, finish_of_ne_panic h]
    cases l.load e <;> simp [Except.mapError]

end

/-! ## The law -/

/-- **The layering law.** Take any steps that all succeed. The base of the configuration is
the one that the last step supplied which supplied a whole one, or the defaults. If names of
variables begin with a start, the last one that was given, the effective value of a field is
that of its variable in the environment, else that of the first entry for it in the files of
variables; it takes the place of the field, and annotations come to those of the base. The
outputs that were asked for last replace those of the configuration.

Loading panics exactly if a start was given and the environment has a variable that is no text,
whatever its name. Otherwise it fails if an effective value is at fault or the configuration is
not valid, and names one of these faults, or else it gives this configuration; of two
environments in which it does not panic, nothing but the effective values has any effect. -/
theorem finish_takeAll {e : Environment} {fs : FileSystem} {steps : List Step} {l : Loader}
    (h : ((takeAll e {} steps).runOn fs).value = .ok l) :
    let y := layersOf e fs steps
    (l.finish e = .error .panic ↔
        y.start.isSome ∧ ∃ v ∈ e.assignments, v.1.text? = none ∨ v.2.text? = none) ∧
      ((∃ cause, l.finish e = .error (.reported cause)) ↔ l.finish e ≠ .error .panic ∧
        ((∃ f, y.fault? e f ≠ none) ∨ ∃ cause, (y.config e).validate = .error cause)) ∧
      (∀ c, l.finish e = .ok c → c = y.config e) ∧
      (∀ cause, l.finish e = .error (.reported cause) →
        (∃ start f expected, y.start = some start ∧ y.fault? e f = some expected ∧
            cause = .invalidVariable (f.variableName start) expected) ∨
          (∀ f, y.fault? e f = none) ∧ (y.config e).validate = .error cause) ∧
      ∀ e', (∀ f, y.text e' f = y.text e f) → l.finish e ≠ .error .panic →
        l.finish e' ≠ .error .panic → (l.finish e').toOption = (l.finish e).toOption := by
  rw [← layers_takeAll h]
  intro y
  obtain ⟨hfails, hloads, hnames⟩ := load_spec l e
  refine ⟨finish_eq_panic_iff, ?_, ?_, ?_, ?_⟩
  · simp only [finish_eq_reported_iff, exists_and_left]
    exact and_congr_right fun _ => hfails
  · intro c hc
    exact hloads c (finish_eq_ok_iff.mp hc).2
  · intro cause hcause
    exact hnames cause (finish_eq_reported_iff.mp hcause).2
  · intro e' he' hprocess hprocess'
    rw [finish_of_ne_panic hprocess, finish_of_ne_panic hprocess', toOption_mapError,
      toOption_mapError]
    exact toOption_load_congr he'

/-- Steps most of which are replaced by later ones. -/
def manySteps : List Step :=
  [.outputs [.documentation], .countFrom "old",
   .text "\x7b\"backend\":\x7b\"port\":1\x7d\x7d" "json",
   .text ("\x7b\"backend\":\x7b\"host\":\"localhost\"\x7d,"
     ++ "\"annotations\":\x7b\"a.B\":[\"x\"]\x7d\x7d") "JSON",
   .envFile "app.env", .countFrom "app", .optionalFile "app.toml", .outputs [.mapping]]

/-- A file of variables, one of them given twice. -/
def oneEnvFile : FileSystem where
  entries :=
    [(["app.env"], .text
      "APP__MAPPING__VERSION=v1\nAPP__MAPPING__VERSION=v2\nAPP__BACKEND__PORT=80\n")]

/-- Variables of which one is not for this program and one for no field. -/
def someVariables : Environment where
  assignments :=
    [("OLD__BACKEND__PORT", "none"), ("APP__BACKEND__PORT", "8080"), ("APP__ANNOTATIONS", "a.C"),
     ("APP__MAPPING__FILENAME", "api.json"), ("APP__MAPPING__", "v3")]

/-- The same variables and one more, whose value is no text. -/
def oneMoreVariable : Environment where
  assignments := ("NOTE", .bytes ⟨#[99, 97, 102, 233]⟩ (by decide)) :: someVariables.assignments

/-- The steps come to a configuration. A variable that belongs to no field does not change what they
come to, nor any effective value, but is fatal if it is no text. -/
theorem finish_takeAll_many_steps :
    ∃ l c, ((takeAll someVariables {} manySteps).runOn oneEnvFile).value = .ok l ∧
      l.finish someVariables = .ok c ∧
      (layersOf someVariables oneEnvFile manySteps).config someVariables = c ∧
      c = { version := some "v1", mappingFile := some "api.json", backendHost := some "localhost",
            backendPort := some 8080,
            registry := (Registry.empty.withAttribute "a.B" "x").withAll "a.C" } ∧
      ((takeAll oneMoreVariable {} manySteps).runOn oneEnvFile).value = .ok l ∧
      (∀ f, l.layers.text oneMoreVariable f = l.layers.text someVariables f) ∧
      l.finish oneMoreVariable = .error .panic := by
  have hsteps : ∀ e ∈ [someVariables, oneMoreVariable],
      ((takeAll e {} manySteps).runOn oneEnvFile).value = .ok
        { config :=
            { backendHost := some "localhost", registry := .withAttribute .empty "a.B" "x" }
          start := some "APP"
          outputs := some [.mapping]
          entries :=
            [("APP__MAPPING__VERSION", "v1"), ("APP__MAPPING__VERSION", "v2"),
             ("APP__BACKEND__PORT", "80")] } := by
    decide +kernel
  have hsome := hsteps someVariables (by simp)
  have hmore := hsteps oneMoreVariable (by simp)
  refine ⟨_, _, hsome, ?_, ?_, rfl, hmore, ?_, ?_⟩
  · decide +kernel
  · exact ((finish_takeAll hsome).2.2.1 _ (by decide +kernel)).symm
  · intro f
    cases f <;> decide +kernel
  · exact (finish_takeAll hmore).1.mpr ⟨by decide +kernel, _, List.mem_cons_self, .inr rfl⟩

end Loader

end RouteMap
