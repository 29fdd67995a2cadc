import RouteMap.Proofs.FileSystem.Writing
import RouteMap.Proofs.Session.Attempts

/-!
# The ways in which a session can end

`Runs s fs tries value after` says that the session `s` on the files `fs` may end with the
value and the files `after`, having tried some writes. What it looks at and reads is what
the files hold, but any write may be refused for any reason, and then leaves the files as
they were. The outcome on a file system is one of these ways (`runs_runOn`).

Of the files, all that a way of ending changes are the texts that it wrote
(`Runs.writeFiles`), and a session without writes (`Quiet`) changes nothing.
-/

namespace RouteMap.Session

variable {α β : Type}

/-- The ways in which a session can end. -/
inductive Runs : Session α → FileSystem → List Attempt → α → FileSystem → Prop
  | done {value fs} : Runs (.done value) fs [] value fs
  | look {path next fs tries value after} :
      Runs (next (kindIn fs path)) fs tries value after →
      Runs (.look path next) fs tries value after
  | read {path next fs tries value after} :
      Runs (next (fs.read path)) fs tries value after →
      Runs (.read path next) fs tries value after
  | written {path content next fs mid tries value after} :
      fs.write path content = .ok mid →
      Runs (next (.ok ())) mid tries value after →
      Runs (.write path content next) fs (⟨path, content, none⟩ :: tries) value after
  | refused {path content next fs tries value after} (cause : FileError) :
      Runs (next (.error cause)) fs tries value after →
      Runs (.write path content next) fs (⟨path, content, some cause⟩ :: tries) value after
  | report {event next fs tries value after} :
      Runs next fs tries value after →
      Runs (.report event next) fs tries value after

/-- The outcome of a session is a way in which it can end. -/
theorem runs_runOn (s : Session α) (fs : FileSystem) :
    Runs s fs (s.attempts fs) (s.runOn fs).value (s.runOn fs).files := by
  induction s generalizing fs with
  | done value => exact .done
  | look path next ih => exact .look (ih _ fs)
  | read path next ih => exact .read (ih _ fs)
  | write path content next ih =>
    simp only [attempts, runOn]
    cases hwrite : fs.write path content with
    | ok mid => exact .written hwrite (ih _ mid)
    | error cause => exact .refused cause (ih _ fs)
  | report event next ih => exact .report (ih fs)

/-- One session after another ends in a way of the first one and then one of the second. -/
theorem Runs.of_bind {s : Session α} {f : α → Session β} {fs after : FileSystem}
    {tries : List Attempt} {value : β} (h : Runs (s.bind f) fs tries value after) :
    ∃ first a mid second, Runs s fs first a mid ∧ Runs (f a) mid second value after ∧
      tries = first ++ second := by
  induction s generalizing fs tries with
  | done a => exact ⟨[], a, fs, tries, .done, h, rfl⟩
  | look path next ih =>
    cases h with
    | look h =>
      obtain ⟨first, a, mid, second, hs, hf, rfl⟩ := ih _ h
      exact ⟨first, a, mid, second, .look hs, hf, rfl⟩
  | read path next ih =>
    cases h with
    | read h =>
      obtain ⟨first, a, mid, second, hs, hf, rfl⟩ := ih _ h
      exact ⟨first, a, mid, second, .read hs, hf, rfl⟩
  | write path content next ih =>
    cases h with
    | written hwrite h =>
      obtain ⟨first, a, mid, second, hs, hf, rfl⟩ := ih _ h
      exact ⟨_ :: first, a, mid, second, .written hwrite hs, hf, rfl⟩
    | refused cause h =>
      obtain ⟨first, a, mid, second, hs, hf, rfl⟩ := ih _ h
      exact ⟨_ :: first, a, mid, second, .refused cause hs, hf, rfl⟩
  | report event next ih =>
    cases h with
    | report h =>
      obtain ⟨first, a, mid, second, hs, hf, rfl⟩ := ih h
      exact ⟨first, a, mid, second, .report hs, hf, rfl⟩

/-! ## The files that are left -/

/-- The path and the text of an attempt, if it was written. -/
def Attempt.file? (t : Attempt) : Option (String × String) :=
  if t.failure = none then some (t.path, t.content) else none

/-- The paths and texts that were written by some attempts. -/
def filesOf (tries : List Attempt) : List (String × String) := tries.filterMap Attempt.file?

theorem filesOf_map_success (files : List (String × String)) :
    filesOf (files.map Attempt.success) = files := by
  unfold filesOf
  rw [List.filterMap_map]
  exact List.filterMap_some

/-- What a session leaves is what its successful writes make of the files. -/
theorem Runs.writeFiles {s : Session α} {fs after : FileSystem} {tries : List Attempt}
    {value : α} (h : Runs s fs tries value after) : fs.writeFiles (filesOf tries) = .ok after := by
  induction h with
  | done => rfl
  | look _ ih => exact ih
  | read _ ih => exact ih
  | written hwrite _ ih =>
    exact (FileSystem.writeFiles_cons_eq_ok_iff _ _ _ _ _).mpr ⟨_, hwrite, ih⟩
  | refused _ _ ih => exact ih
  | report _ ih => exact ih

/-! ## Sessions without writes -/

/-- A session that writes nothing, whatever it is answered. -/
def Quiet : Session α → Prop
  | done _ => True
  | look _ next => ∀ answer, (next answer).Quiet
  | read _ next => ∀ answer, (next answer).Quiet
  | write _ _ _ => False
  | report _ next => next.Quiet

theorem Quiet.bind {s : Session α} {f : α → Session β} (hs : s.Quiet)
    (hf : ∀ a, (f a).Quiet) : (s.bind f).Quiet := by
  induction s with
  | done a => exact hf a
  | look path next ih => exact fun answer => ih answer (hs answer)
  | read path next ih => exact fun answer => ih answer (hs answer)
  | write path content next => exact hs.elim
  | report event next ih => exact ih hs

theorem quiet_reportAll (events : List Log.Event) : (reportAll events).Quiet := by
  induction events with
  | nil => exact trivial
  | cons event events ih => exact ih

/-- A session without writes can end in one way only: it tries nothing and leaves the files
alone. -/
theorem Quiet.runs {s : Session α} (hs : s.Quiet) {fs after : FileSystem}
    {tries : List Attempt} {value : α} (h : Runs s fs tries value after) :
    value = (s.runOn fs).value ∧ tries = [] ∧ after = fs := by
  induction h with
  | done => exact ⟨rfl, rfl, rfl⟩
  | look _ ih => exact ih (hs _)
  | read _ ih => exact ih (hs _)
  | written _ _ _ => exact hs.elim
  | refused _ _ _ => exact hs.elim
  | report _ ih => exact ih hs

/-- Behind a session without writes there is only the session that follows it. -/
theorem Quiet.runs_bind {s : Session α} (hs : s.Quiet) {f : α → Session β}
    {fs after : FileSystem} {tries : List Attempt} {value : β}
    (h : Runs (s.bind f) fs tries value after) :
    Runs (f (s.runOn fs).value) fs tries value after := by
  obtain ⟨first, a, mid, second, hfirst, hsecond, rfl⟩ := h.of_bind
  obtain ⟨rfl, rfl, rfl⟩ := hs.runs hfirst
  exact hsecond

/-- A session behind one without writes runs on the same files. -/
theorem Quiet.value_bind {s : Session α} (hs : s.Quiet) (f : α → Session β) (fs : FileSystem) :
    ((s.bind f).runOn fs).value = ((f (s.runOn fs).value).runOn fs).value := by
  rw [Session.value_bind, (hs.runs (runs_runOn s fs)).2.2]

@[simp] theorem value_pure (a : α) (fs : FileSystem) : ((pure a : Session α).runOn fs).value = a :=
  rfl

theorem value_look_bind (path : String) (f : Option FileKind → Session β) (fs : FileSystem) :
    ((kindOf? path >>= f).runOn fs).value = ((f (kindIn fs path)).runOn fs).value := rfl

theorem value_read_bind (path : String) (f : Except FileError String → Session β)
    (fs : FileSystem) :
    ((textOf path >>= f).runOn fs).value = ((f (fs.read path)).runOn fs).value := rfl

end RouteMap.Session
