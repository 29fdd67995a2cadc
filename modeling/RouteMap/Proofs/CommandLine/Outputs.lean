import RouteMap.Proofs.CommandLine.Loading
import RouteMap.Proofs.Config.Outputs
import RouteMap.Proofs.Config.Validation

/-!
# Where the outputs come from

The outputs of a run come from a list of names that it is asked for, from the variable for such a
list, or from the configuration that was loaded before. A list is never read as no outputs, so a
configuration whose outputs come from one is not refused for want of outputs
(`OutputsFrom.load_ne_noOutputs`); nor can anything fail so before the configuration is complete
(`value_takeAll_ne_noOutputs`). So the same holds for the arguments and the variable of the program
(`loadConfig_ne_noOutputs`).
-/

namespace RouteMap

open Session

/-! ## Setting up -/

namespace Config

section

variable {ε α β : Type} {x : Except ε α} {cause : ε}

theorem bind_ne_error {f : α → Except ε β} (h : x ≠ .error cause) (hf : ∀ a, f a ≠ .error cause) :
    x.bind f ≠ .error cause := by
  cases x with
  | error other => exact fun hbind => h (congrArg _ (Except.error.inj hbind))
  | ok a => exact hf a

theorem map_ne_error {f : α → β} (h : x ≠ .error cause) : x.map f ≠ .error cause := by
  cases x with
  | error other => exact fun hmap => h (congrArg _ (Except.error.inj hmap))
  | ok a => exact nofun

end

theorem ofText_ne_noOutputs (f : TextFormat) (text : String) :
    ofText f text ≠ .error .noOutputs := by
  cases f with
  | toml =>
    show ofTomlText text ≠ _
    unfold ofTomlText
    split
    · simp
    · split
      · simp
      · next j _ => cases ofJson? j <;> simp
  | json =>
    show ofJsonText text ≠ _
    unfold ofJsonText
    split
    · simp
    · next j _ => cases ofJson? j <;> simp

theorem ofFileText_ne_noOutputs (path text : String) :
    ofFileText path text ≠ .error .noOutputs := by
  unfold ofFileText
  split
  · next f _ => exact ofText_ne_noOutputs f text
  · simp

end Config

namespace Loader

section

variable {l : Loader} {e : Environment} {fs : FileSystem}

theorem value_withFile_ne_noOutputs (path : String) :
    ((l.withFile path).runOn fs).value ≠ .error .noOutputs := by
  rw [value_withFile]
  split
  · simp
  · split
    · simp
    · exact Config.map_ne_error (Config.ofFileText_ne_noOutputs path _)

theorem value_withEnvFile_ne_noOutputs (path : String) :
    ((l.withEnvFile e path).runOn fs).value ≠ .error .noOutputs := by
  rw [value_withEnvFile]
  split
  · simp
  · simp
  · unfold withEntries
    split <;> simp

/-- Setting up a loader does not look at the outputs. -/
theorem value_take_ne_noOutputs (step : Step) :
    ((l.take e step).runOn fs).value ≠ .error .noOutputs := by
  cases step with
  | text text format =>
    show l.withText text format ≠ _
    unfold withText
    split
    · exact Config.map_ne_error (Config.ofText_ne_noOutputs _ text)
    · simp
  | file path => exact value_withFile_ne_noOutputs path
  | optionalFile path =>
    show ((l.withOptionalFile path).runOn fs).value ≠ _
    rw [value_withOptionalFile]
    split
    · simp
    · exact value_withFile_ne_noOutputs path
  | envFile path => exact value_withEnvFile_ne_noOutputs path
  | nearestEnvFile =>
    show ((l.withNearestEnvFile e).runOn fs).value ≠ _
    rw [value_withNearestEnvFile]
    split
    · simp
    · exact value_withEnvFile_ne_noOutputs _
  | _ => exact nofun

theorem value_takeAll_ne_noOutputs (steps : List Step) :
    ((l.takeAll e steps).runOn fs).value ≠ .error .noOutputs := by
  induction steps generalizing l with
  | nil => exact nofun
  | cons step steps ih =>
    rw [value_takeAll_cons]
    exact Config.bind_ne_error (value_take_ne_noOutputs step) fun _ => ih

/-! ## Loading -/

/-- Loading fails for want of outputs exactly if no effective value is at fault and the
configuration has a version and no outputs. -/
theorem load_eq_noOutputs_iff :
    l.load e = .error .noOutputs ↔ (∀ f, l.layers.fault? e f = none) ∧
      (∃ v, (l.layers.config e).version? = some v) ∧ (l.layers.config e).outputs = [] := by
  rw [← Config.validate_eq_noOutputs_iff]
  rcases load_cases l e with ⟨start, f, expected, -, hf, hload⟩ | ⟨hsound, hload⟩
  · rw [hload]
    constructor
    · intro h
      cases h
    · rintro ⟨hsound, -⟩
      rw [hsound f] at hf
      cases hf
  · rw [hload, and_iff_right hsound]
    cases (l.layers.config e).validate <;> simp [Except.map]

/-- The outputs of the configuration come from a list of names: the list was asked for, or nothing
was asked for and the list is the value of the variable for outputs. -/
inductive OutputsFrom (l : Loader) (e : Environment) (text : String) : Prop
  | asked {os : List Output} (hasked : l.outputs = some os) (hread : Output.listOf text = .ok os)
  | given (hasked : l.outputs = none) (htext : l.layers.text e .outputs = some text)

/-- Outputs that come from a list are some. -/
theorem OutputsFrom.outputs_ne_nil {text : String} (h : l.OutputsFrom e text)
    (hsound : ∀ f, l.layers.fault? e f = none) : (l.layers.config e).outputs ≠ [] := by
  cases h with
  | asked hasked hread =>
    have houtputs : l.layers.outputs = some _ := hasked
    simp only [Layers.config, houtputs, Option.getD_some]
    exact Output.ne_nil_of_listOf hread
  | given hasked htext =>
    have houtputs : l.layers.outputs = none := hasked
    have hfault := hsound .outputs
    simp only [Layers.fault?, htext, Option.bind_some, Config.Field.fault?] at hfault
    cases hread : Output.listOf text with
    | error cause =>
      rw [hread] at hfault
      cases hfault
    | ok os =>
      simp only [Layers.config, houtputs, Config.withTexts, htext, Option.elim_some, hread,
        Option.getD_none]
      exact Output.ne_nil_of_listOf hread

theorem OutputsFrom.load_ne_noOutputs {text : String} (h : l.OutputsFrom e text) :
    l.load e ≠ .error .noOutputs := by
  rw [Ne, load_eq_noOutputs_iff]
  rintro ⟨hsound, -, hnil⟩
  exact h.outputs_ne_nil hsound hnil

theorem OutputsFrom.finish_ne_noOutputs {text : String} (h : l.OutputsFrom e text) :
    l.finish e ≠ .error (.reported .noOutputs) :=
  fun hfinish => h.load_ne_noOutputs (finish_eq_reported_iff.mp hfinish).2

end

end Loader

/-! ## The program -/

namespace CommandLine

open Loader (Step)

/-- The value of the variable of a field: that of the environment, else that of the nearest file of
variables. -/
def textOf? (e : Environment) (fs : FileSystem) (f : Config.Field) : Option String :=
  (e.get? (f.variableName variableStart)).or
    ((Step.entries e fs .nearestEnvFile).lookup (f.variableName variableStart))

section

variable (e : Environment) (fs : FileSystem) (a : Arguments)

theorem text_layersOf_steps : (Loader.layersOf e fs a.steps).text e = textOf? e fs := by
  have hstart : Text.upperCase variableStart = variableStart := by decide +kernel
  unfold Arguments.steps Loader.layersOf Loader.Layers.text
  -- only the first step reads variables, and only the last one says how their names begin
  cases a.config <;> simp [Step.last?, Step.start?, Step.entries, hstart, textOf?, funext_iff]

end

/-- The program does not fail for want of outputs if it is asked for a list, or else if the variable
has one. -/
theorem loadConfig_ne_noOutputs {e : Environment} {a : Arguments} {fs : FileSystem} {text : String}
    (h : a.outputs = some text ∨ a.outputs = none ∧ textOf? e fs .outputs = some text) :
    ((loadConfig e a).runOn fs).value ≠ .error (.reported .noOutputs) := by
  rw [value_loadConfig]
  cases hsteps : ((Loader.takeAll e {} a.steps).runOn fs).value with
  | error cause =>
    intro hcause
    obtain rfl := Loader.Stop.reported.inj (Except.error.inj hcause)
    exact Loader.value_takeAll_ne_noOutputs a.steps hsteps
  | ok l =>
    have hlayers := Loader.layers_takeAll hsteps
    change a.finish e l ≠ .error (.reported .noOutputs)
    rcases h with hasked | ⟨hasked, htext⟩
    · simp only [Arguments.finish, hasked]
      cases hread : Output.listOf text with
      | error cause =>
        obtain ⟨item, -, rfl⟩ := Output.listOf_eq_error_iff.mp hread
        intro h
        cases h
      | ok os =>
        have hfrom : (l.withOutputs os).OutputsFrom e text := .asked rfl hread
        exact hfrom.finish_ne_noOutputs
    · simp only [Arguments.finish, hasked]
      have hfrom : l.OutputsFrom e text := by
        refine .given ?_ ?_
        · exact (congrArg Loader.Layers.outputs hlayers).trans (outputs_layersOf_steps e fs a)
        · rw [hlayers, text_layersOf_steps]
          exact htext
      exact hfrom.finish_ne_noOutputs

end CommandLine

/-! ## Lists of outputs -/

open Output (listOf itemsOf Usable FirstMentions)

/-- **Lists of outputs are read exactly.** A list between commas is read if each of its items,
without the blanks around it, is blank or the name of an output. It is read neither as nothing nor
with an output twice: blank items alone stand for the mapping, and otherwise the outputs are those
that the items mention, in the order in which they are mentioned first. The names of these outputs,
with commas between them, are read as the same outputs. Any other list is refused because of its
first item that is not usable.

So no configuration is refused for want of outputs if its outputs come from a list, be it that a
loader was asked for the list or has it as the value of a variable, or that the program is asked for
it or has it in the variable for outputs. -/
theorem outputs_read_exactly (text : String) :
    ((∃ os, listOf text = .ok os) ↔ ∀ item ∈ itemsOf text, Usable item) ∧
      (∀ os, listOf text = .ok os →
        os ≠ [] ∧ os.Nodup ∧
        ((∀ item ∈ itemsOf text, item = "") → os = [.mapping]) ∧
        ((∃ item ∈ itemsOf text, item ≠ "") → FirstMentions (itemsOf text) os) ∧
        listOf (Text.join "," (os.map Output.name)) = .ok os ∧
        ∀ c : Config, { c with outputs := os }.validate ≠ .error .noOutputs) ∧
      (∀ cause, listOf text = .error cause ↔
        ∃ item, (itemsOf text).find? (¬ Usable ·) = some item ∧ cause = .unknownOutput item) ∧
      (∀ (l : Loader) (e : Environment), l.OutputsFrom e text → l.load e ≠ .error .noOutputs) ∧
      ∀ (e : Environment) (a : CommandLine.Arguments) (fs : FileSystem),
        a.outputs = some text ∨
          a.outputs = none ∧ CommandLine.textOf? e fs .outputs = some text →
        ((CommandLine.loadConfig e a).runOn fs).value ≠ .error (.reported .noOutputs) := by
  refine ⟨⟨?_, ?_⟩, ?_, fun _ => Output.listOf_eq_error_iff, fun l e h => h.load_ne_noOutputs,
    fun e a fs h => CommandLine.loadConfig_ne_noOutputs h⟩
  · rintro ⟨os, hread⟩
    exact (Output.listOf_eq_ok_iff.mp hread).1
  · intro husable
    obtain ⟨os, -, hread⟩ := Output.listOf_of_usable husable
    exact ⟨_, hread⟩
  · intro os hread
    have hne := Output.ne_nil_of_listOf hread
    have hnodup := Output.nodup_of_listOf hread
    obtain ⟨-, hos⟩ := Output.listOf_eq_ok_iff.mp hread
    refine ⟨hne, hnodup, ?_, ?_, Output.listOf_join_names hne hnodup, ?_⟩
    · intro hblank
      rcases hos with ⟨-, hmapping⟩ | ⟨⟨item, hitem, hsome⟩, -⟩
      · exact hmapping
      · exact absurd (hblank item hitem) hsome
    · rintro ⟨item, hitem, hsome⟩
      rcases hos with ⟨hblank, -⟩ | ⟨-, hmentions⟩
      · exact absurd (hblank item hitem) hsome
      · exact hmentions
    · intro c hc
      exact hne ((Config.validate_eq_noOutputs_iff _).mp hc).2

/-- A configuration file that asks for nothing. -/
def nothingAsked : FileSystem where
  entries :=
    [(["api.json"], .text
      ("\x7b\"mapping\":\x7b\"version\":\"v1\",\"mode\":[],\"filename\":\"m.json\"\x7d,"
        ++ "\"backend\":\x7b\"host\":\"localhost\",\"port\":80\x7d\x7d"))]

/-- A variable with a list of two blank items. -/
def blankItems : Environment where
  assignments := [("APIFEST__MAPPING__MODE", " , ")]

/-- The configuration is refused for want of outputs, but not with a list of blank items. -/
theorem outputs_read_exactly_blank_items :
    listOf " , " = .ok [.mapping] ∧
      CommandLine.textOf? blankItems nothingAsked .outputs = some " , " ∧
      ((CommandLine.loadConfig blankItems { config := some "api.json" }).runOn nothingAsked).value ≠
        .error (.reported .noOutputs) ∧
      ((CommandLine.loadConfig {} { config := some "api.json" }).runOn nothingAsked).value =
        .error (.reported .noOutputs) := by
  obtain ⟨hreads, hlists, -, -, hprogram⟩ := outputs_read_exactly " , "
  have hvariable : CommandLine.textOf? blankItems nothingAsked .outputs = some " , " := by
    decide +kernel
  refine ⟨?_, hvariable, hprogram _ _ _ (.inr ⟨rfl, hvariable⟩), by decide +kernel⟩
  obtain ⟨os, hread⟩ := hreads.mpr (by decide)
  have hmapping : os = [.mapping] := (hlists os hread).2.2.1 (by decide)
  rw [hread, hmapping]

end RouteMap
