import RouteMap.Session

/-!
# What a session tries to write

The `attempts` of a session on a file system are its writes in their order, those that
fail among them. They say what a run renders even where a later write replaces an
earlier one, and like the outcome they are known for a session as soon as they are
known for its parts (`attempts_bind`).
-/

namespace RouteMap.Session

variable {α β : Type}

/-- A text that a session tried to write, and why it was not written if it was not. -/
structure Attempt where
  path : String
  content : String
  failure : Option FileError
deriving DecidableEq

/-- The attempt that wrote a text under a path. -/
def Attempt.success (file : String × String) : Attempt := ⟨file.1, file.2, none⟩

/-- The writes of a session on a file system, in their order. -/
def attempts : Session α → FileSystem → List Attempt
  | done _, _ => []
  | look path next, fs => (next (kindIn fs path)).attempts fs
  | read path next, fs => (next (fs.read path)).attempts fs
  | write path content next, fs =>
    match fs.write path content with
    | .ok fs => ⟨path, content, none⟩ :: (next (.ok ())).attempts fs
    | .error cause => ⟨path, content, some cause⟩ :: (next (.error cause)).attempts fs
  | report _ next, fs => next.attempts fs

/-! ## One session after another -/

theorem bind_eq (s : Session α) (f : α → Session β) : s >>= f = s.bind f := rfl

/-- The second session makes its attempts on the files that the first one leaves. -/
theorem attempts_bind (s : Session α) (f : α → Session β) (fs : FileSystem) :
    (s.bind f).attempts fs =
      s.attempts fs ++ (f (s.runOn fs).value).attempts (s.runOn fs).files := by
  induction s generalizing fs with
  | done value => rfl
  | look path next ih => exact ih _ fs
  | read path next ih => exact ih _ fs
  | write path content next ih =>
    simp only [bind, attempts, runOn]
    cases fs.write path content with
    | ok fs' =>
      rw [List.cons_append]
      exact congrArg _ (ih _ fs')
    | error cause =>
      rw [List.cons_append]
      exact congrArg _ (ih _ fs)
  | report event next ih => exact ih fs

theorem value_bind (s : Session α) (f : α → Session β) (fs : FileSystem) :
    ((s.bind f).runOn fs).value =
      ((f (s.runOn fs).value).runOn (s.runOn fs).files).value := by
  rw [runOn_bind]

/-- The second session reports behind the first one. -/
theorem events_bind (s : Session α) (f : α → Session β) (fs : FileSystem) :
    ((s.bind f).runOn fs).events =
      (s.runOn fs).events ++ ((f (s.runOn fs).value).runOn (s.runOn fs).files).events := by
  rw [runOn_bind]

/-! ## Reports -/

@[simp] theorem events_reportAll (events : List Log.Event) (fs : FileSystem) :
    ((reportAll events).runOn fs).events = events := by
  induction events with
  | nil => rfl
  | cons event events ih => exact congrArg (event :: ·) ih

@[simp] theorem attempts_reportAll (events : List Log.Event) (fs : FileSystem) :
    (reportAll events).attempts fs = [] := by
  induction events with
  | nil => rfl
  | cons event events ih => exact ih

@[simp] theorem files_reportAll (events : List Log.Event) (fs : FileSystem) :
    ((reportAll events).runOn fs).files = fs := by
  induction events with
  | nil => rfl
  | cons event events ih => exact ih

theorem value_reportAll_bind (events : List Log.Event) (f : Unit → Session β)
    (fs : FileSystem) : (((reportAll events).bind f).runOn fs).value = ((f ()).runOn fs).value := by
  rw [value_bind, files_reportAll]

theorem events_reportAll_bind (events : List Log.Event) (f : Unit → Session β)
    (fs : FileSystem) :
    (((reportAll events).bind f).runOn fs).events = events ++ ((f ()).runOn fs).events := by
  rw [events_bind, events_reportAll, files_reportAll]

theorem attempts_reportAll_bind (events : List Log.Event) (f : Unit → Session β)
    (fs : FileSystem) : ((reportAll events).bind f).attempts fs = (f ()).attempts fs := by
  rw [attempts_bind, attempts_reportAll, files_reportAll, List.nil_append]

end RouteMap.Session
