import RouteMap.Generator
import RouteMap.Proofs.Session.Runs

/-!
# What a run writes

A run whose endpoints are assembled tries to write its documents one after another and
stops at the first that is refused (`runs_run`); a run whose endpoints are not assembled
tries nothing (`runs_run_of_rejected`). Both are laws of every way in which the run can
end, and its outcome on a file system is one of these ways (`run_cases`).
-/

namespace RouteMap.Generator

open Session

/-- The paths and texts of those documents that are wanted and rendered. -/
def files (g : Generator) (es : List Endpoint) (os : List Output) : List (String × String) :=
  os.filterMap fun o =>
    match g.document es o with
    | some (name, .ok text) => some (Path.join g.directory name, text)
    | _ => none

/-- No document that is wanted fails to be rendered. -/
def Renders (g : Generator) (es : List Endpoint) (os : List Output) : Prop :=
  ∀ o ∈ os, ∀ name e, g.document es o ≠ some (name, .error e)

/-- Files are written in turn, all of them or up to the first that is refused. -/
inductive InTurn : List (String × String) → List Attempt → Option DocumentError → Prop
  | complete : InTurn [] [] none
  | written {file files tries refusal} : InTurn files tries refusal →
      InTurn (file :: files) (Attempt.success file :: tries) refusal
  | refused {path text files} (cause : FileError) :
      InTurn ((path, text) :: files) [⟨path, text, some cause⟩] (some (.unwritable path cause))

/-- Files in turn are all written, or those in front of the one that is refused. -/
theorem InTurn.split {files : List (String × String)} {tries : List Attempt}
    {refusal : Option DocumentError} (h : InTurn files tries refusal) :
    (refusal = none ∧ tries = files.map Attempt.success) ∨
      ∃ before path text after cause, files = before ++ (path, text) :: after ∧
        refusal = some (.unwritable path cause) ∧
        tries = before.map Attempt.success ++ [⟨path, text, some cause⟩] := by
  induction h with
  | complete => exact .inl ⟨rfl, rfl⟩
  | @written file files tries refusal _ ih =>
    rcases ih with ⟨rfl, rfl⟩ | ⟨before, path, text, after, cause, rfl, rfl, rfl⟩
    · exact .inl ⟨rfl, rfl⟩
    · exact .inr ⟨file :: before, path, text, after, cause, rfl, rfl, rfl⟩
  | @refused path text files cause => exact .inr ⟨[], path, text, files, cause, rfl, rfl, rfl⟩

/-- A rendered document is written under its path or refused. -/
theorem runs_write (g : Generator) {name text : String} {fs after : FileSystem}
    {tries : List Attempt} {answer : Except DocumentError String}
    (h : Runs (g.write name (.ok text)) fs tries answer after) :
    (answer = .ok (Path.join g.directory name) ∧
        tries = [Attempt.success (Path.join g.directory name, text)]) ∨
      ∃ cause, answer = .error (.unwritable (Path.join g.directory name) cause) ∧
        tries = [⟨Path.join g.directory name, text, some cause⟩] := by
  cases h with
  | written _ h =>
    replace h := (quiet_reportAll _).runs_bind h
    cases h
    exact .inl ⟨rfl, rfl⟩
  | refused cause h =>
    cases h
    exact .inr ⟨cause, rfl, rfl⟩

/-! ## All documents -/

section

variable (g : Generator) (es : List Endpoint) {o : Output} {name text : String}

/-- A document that is not wanted is passed over. -/
theorem writeAll_cons_of_none (h : g.document es o = none) (written : List String)
    (os : List Output) :
    g.writeAll es written (o :: os) = g.writeAll es written os ∧
      g.files es (o :: os) = g.files es os := by
  constructor
  · rw [writeAll, h]
  · rw [files, List.filterMap_cons, h]
    rfl

theorem files_cons_of_ok (h : g.document es o = some (name, .ok text)) (os : List Output) :
    g.files es (o :: os) = (Path.join g.directory name, text) :: g.files es os := by
  rw [files, List.filterMap_cons, h]
  rfl

/-- A document that is wanted is written in front of the others. -/
theorem writeAll_cons_of_some {rendered : Except DocumentError String}
    (h : g.document es o = some (name, rendered)) (written : List String) (os : List Output) :
    g.writeAll es written (o :: os) = (g.write name rendered).bind fun answer =>
      match answer with
      | .error e => .done (.error e)
      | .ok path => g.writeAll es (written ++ [path]) os := by
  rw [writeAll, h]
  rfl

end

/-- The answer about files that were written behind others, or about the one that was
refused. -/
def answerOf (written : List String) (files : List (String × String)) :
    Option DocumentError → Except DocumentError (List String)
  | none => .ok (written ++ files.map Prod.fst)
  | some e => .error e

/-- Documents are written in turn, all of them or up to the first that is refused. -/
theorem runs_writeAll (g : Generator) (es : List Endpoint) {os : List Output}
    (hr : g.Renders es os) (written : List String) {fs after : FileSystem}
    {tries : List Attempt} {answer : Except DocumentError (List String)}
    (h : Runs (g.writeAll es written os) fs tries answer after) :
    ∃ refusal, InTurn (g.files es os) tries refusal ∧
      answer = answerOf written (g.files es os) refusal := by
  induction os generalizing written fs tries with
  | nil =>
    cases h
    exact ⟨none, .complete, by simp [answerOf, files]⟩
  | cons o os ih =>
    have hrest : g.Renders es os := fun o' ho' => hr o' (List.mem_cons_of_mem _ ho')
    rcases hdoc : g.document es o with _ | ⟨name, rendered⟩
    · obtain ⟨hskip, hfiles⟩ := g.writeAll_cons_of_none es hdoc written os
      rw [hskip] at h
      rw [hfiles]
      exact ih hrest written h
    · cases rendered with
      | error e => exact absurd hdoc (hr o List.mem_cons_self name e)
      | ok text =>
        rw [g.writeAll_cons_of_some es hdoc] at h
        rw [g.files_cons_of_ok es hdoc]
        obtain ⟨first, answer', mid, second, hfirst, hsecond, rfl⟩ := h.of_bind
        rcases g.runs_write hfirst with ⟨rfl, rfl⟩ | ⟨cause, rfl, rfl⟩
        · -- the first document is in front of what the others come to
          obtain ⟨refusal, hturn, rfl⟩ := ih hrest _ hsecond
          refine ⟨refusal, .written hturn, ?_⟩
          cases refusal <;> simp [answerOf]
        · cases hsecond
          exact ⟨_, .refused cause, rfl⟩

/-! ## The run -/

/-- A run whose endpoints are not assembled fails with their errors and tries nothing. -/
theorem runs_run_of_rejected (g : Generator) {input : MethodSet} {e : BatchError}
    (hassemble : g.config.settings.assembleAll input.methods = .error e)
    {fs after : FileSystem} {tries : List Attempt} {value : Except RunError Summary}
    (h : Runs (g.run input) fs tries value after) :
    value = .error (.endpoints e) ∧ tries = [] := by
  unfold run at h
  simp only [hassemble, bind_eq] at h
  replace h := (quiet_reportAll _).runs_bind h
  cases h
  exact ⟨rfl, rfl⟩

/-- A run whose endpoints are assembled writes its documents in turn. -/
theorem runs_run (g : Generator) {input : MethodSet} {es : List Endpoint}
    (hassemble : g.config.settings.assembleAll input.methods = .ok es)
    (hr : g.Renders es Output.all) {fs after : FileSystem} {tries : List Attempt}
    {value : Except RunError Summary} (h : Runs (g.run input) fs tries value after) :
    ∃ refusal, InTurn (g.files es Output.all) tries refusal ∧
      value = match refusal with
        | none => .ok { endpoints := es.length, written := (g.files es Output.all).map Prod.fst }
        | some e => .error (.document e) := by
  unfold run at h
  simp only [hassemble, bind_eq] at h
  replace h := (quiet_reportAll _).runs_bind h
  replace h := (quiet_reportAll _).runs_bind h
  obtain ⟨first, answer, mid, second, hwrite, hend, rfl⟩ := h.of_bind
  obtain ⟨refusal, hturn, rfl⟩ := g.runs_writeAll es hr [] hwrite
  refine ⟨refusal, ?_⟩
  cases refusal with
  | none =>
    replace hend := (quiet_reportAll _).runs_bind hend
    cases hend
    rw [List.append_nil]
    exact ⟨hturn, rfl⟩
  | some e =>
    cases hend
    rw [List.append_nil]
    exact ⟨hturn, rfl⟩

/-! ## The outcome on a file system -/

/-- A run whose endpoints are not assembled fails with their errors and tries nothing. -/
theorem run_of_rejected (g : Generator) {input : MethodSet} {e : BatchError}
    (h : g.config.settings.assembleAll input.methods = .error e) (fs : FileSystem) :
    ((g.run input).runOn fs).value = .error (.endpoints e) ∧
      (g.run input).attempts fs = [] :=
  g.runs_run_of_rejected h (runs_runOn _ fs)

/-- A run whose endpoints are assembled is the writing of its documents. -/
theorem run_of_assembled (g : Generator) {input : MethodSet} {es : List Endpoint}
    (h : g.config.settings.assembleAll input.methods = .ok es) (fs : FileSystem) :
    ((g.run input).runOn fs).value =
        (match ((g.writeAll es [] Output.all).runOn fs).value with
        | .error e => .error (.document e)
        | .ok written => .ok { endpoints := es.length, written }) ∧
      (g.run input).attempts fs = (g.writeAll es [] Output.all).attempts fs := by
  unfold run
  simp only [h, bind_eq, value_reportAll_bind, attempts_reportAll_bind]
  rw [value_bind, attempts_bind]
  cases ((g.writeAll es [] Output.all).runOn fs).value with
  | error e => exact ⟨rfl, List.append_nil _⟩
  | ok written =>
    simp only [value_reportAll_bind, attempts_reportAll_bind]
    exact ⟨rfl, List.append_nil _⟩

/-- A run whose endpoints are assembled writes its documents, all of them or up to the
first that cannot be written. -/
theorem run_cases (g : Generator) {input : MethodSet} {es : List Endpoint}
    (h : g.config.settings.assembleAll input.methods = .ok es)
    (hr : g.Renders es Output.all) (fs : FileSystem) :
    (((g.run input).runOn fs).value =
        .ok { endpoints := es.length, written := (g.files es Output.all).map Prod.fst } ∧
      (g.run input).attempts fs = (g.files es Output.all).map Attempt.success) ∨
    ∃ before path text after cause,
      g.files es Output.all = before ++ (path, text) :: after ∧
      ((g.run input).runOn fs).value = .error (.document (.unwritable path cause)) ∧
      (g.run input).attempts fs =
        before.map Attempt.success ++ [⟨path, text, some cause⟩] := by
  obtain ⟨refusal, hturn, hvalue⟩ := g.runs_run h hr (runs_runOn _ fs)
  rcases hturn.split with ⟨rfl, htries⟩ | ⟨before, path, text, after, cause, hsplit, rfl, htries⟩
  · exact .inl ⟨hvalue, htries⟩
  · exact .inr ⟨before, path, text, after, cause, hsplit, hvalue, htries⟩

/-- A run reports the warnings about its methods, in their order, and then, if all endpoints are
assembled, how many there are; what it reports later comes from writing them. -/
theorem exists_events_run (g : Generator) (input : MethodSet) (fs : FileSystem) :
    ∃ later, ((g.run input).runOn fs).events =
        (input.methods.flatMap fun m => g.config.settings.warnings m.index) ++ later ∧
      match g.config.settings.assembleAll input.methods with
      | .error _ => later = []
      | .ok es => ∃ last, later = .assembled input.methods.length es.length :: last := by
  unfold run
  simp only [bind_eq, events_reportAll_bind]
  refine ⟨_, rfl, ?_⟩
  cases g.config.settings.assembleAll input.methods with
  | error batch => rfl
  | ok es =>
    simp only [events_reportAll_bind]
    exact ⟨_, rfl⟩

end RouteMap.Generator
