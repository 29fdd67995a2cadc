import RouteMap.FileSystem.Basic
import RouteMap.Log.Event

/-!
# Sessions

A `Session` is a computation that looks at files, reads and writes them and reports
events. It is a tree whose branches are the answers, so it can be run on a
`FileSystem`, which gives its value, the files it leaves and the events it reported,
or be performed on the files of a machine.
-/

namespace RouteMap

/-- What a name stands for. -/
inductive FileKind where
  | file
  | directory
deriving DecidableEq, Repr

/-- A computation with files and events. -/
inductive Session (α : Type) where
  | done (value : α)
  /-- Look whether a path leads somewhere. -/
  | look (path : String) (next : Option FileKind → Session α)
  | read (path : String) (next : Except FileError String → Session α)
  | write (path content : String) (next : Except FileError Unit → Session α)
  | report (event : Log.Event) (next : Session α)

namespace Session

variable {α β : Type}

/-- One computation after another. -/
def bind : Session α → (α → Session β) → Session β
  | done value, f => f value
  | look path next, f => look path fun answer => (next answer).bind f
  | read path next, f => read path fun answer => (next answer).bind f
  | write path content next, f => write path content fun answer => (next answer).bind f
  | report event next, f => report event (next.bind f)

instance : Monad Session where
  pure := done
  bind := bind

/-- Reports events one after another. -/
def reportAll : List Log.Event → Session Unit
  | [] => done ()
  | event :: events => report event (reportAll events)

/-- What a path leads to. -/
def kindOf? (path : String) : Session (Option FileKind) := look path done

/-- The text of a file. -/
def textOf (path : String) : Session (Except FileError String) := read path done

/-- Puts a text into a file. -/
def save (path content : String) : Session (Except FileError Unit) := write path content done

/-- The kind of what a path leads to in a file system. -/
def kindIn (fs : FileSystem) (path : String) : Option FileKind :=
  match fs.look path with
  | .ok .directory => some .directory
  | .ok _ => some .file
  | .error _ => none

/-- What a session comes to: its value, the files it leaves, and its events. -/
structure Outcome (α : Type) where
  value : α
  files : FileSystem
  events : List Log.Event

/-- The outcome of a session on a file system. -/
def runOn : Session α → FileSystem → Outcome α
  | done value, fs => ⟨value, fs, []⟩
  | look path next, fs => (next (kindIn fs path)).runOn fs
  | read path next, fs => (next (fs.read path)).runOn fs
  | write path content next, fs =>
    match fs.write path content with
    | .ok fs => (next (.ok ())).runOn fs
    | .error e => (next (.error e)).runOn fs
  | report event next, fs =>
    let rest := next.runOn fs
    { rest with events := event :: rest.events }

/-! ## Laws -/

theorem bind_done (s : Session α) : s.bind done = s := by
  induction s with
  | done value => rfl
  | look path next ih => simp [bind, ih]
  | read path next ih => simp [bind, ih]
  | write path content next ih => simp [bind, ih]
  | report event next ih => simp [bind, ih]

/-- A session after another runs on the files that the first one leaves. -/
theorem runOn_bind (s : Session α) (f : α → Session β) (fs : FileSystem) :
    (s.bind f).runOn fs =
      let first := s.runOn fs
      let second := (f first.value).runOn first.files
      { second with events := first.events ++ second.events } := by
  induction s generalizing fs with
  | done value => rfl
  | look path next ih => simp [bind, runOn, ih]
  | read path next ih => simp [bind, runOn, ih]
  | write path content next ih =>
    simp only [bind, runOn]
    split <;> simp [ih]
  | report event next ih => simp [bind, runOn, ih]

end Session

end RouteMap
