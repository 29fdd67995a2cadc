import RouteMap.Config.Steps
import RouteMap.Proofs.Session.Runs

/-!
# What loading looks at

Setting up a loader only looks and reads: no step writes anything (`quiet_take`). On given
files a step that succeeds has therefore found its text in them, and all that it does to the
loader is to put the content of this text into one of its parts.
-/

namespace RouteMap

open Session

namespace Loader

variable (l : Loader) (e : Environment)

theorem quiet_withFile (path : String) : (l.withFile path).Quiet := by
  intro kind
  cases kind with
  | none => trivial
  | some kind =>
    intro answer
    cases answer with
    | error cause => trivial
    | ok text => trivial

theorem quiet_withOptionalFile (path : String) : (l.withOptionalFile path).Quiet := by
  intro kind
  cases kind with
  | none => trivial
  | some kind => exact l.quiet_withFile path

theorem quiet_withEnvFile (path : String) : (l.withEnvFile e path).Quiet := by
  intro answer
  cases answer with
  | error cause => cases cause <;> trivial
  | ok text => trivial

theorem quiet_findEnvFile (up : String) (depth : Nat) : (findEnvFile up depth).Quiet := by
  induction depth generalizing up with
  | zero =>
    intro kind
    cases kind with
    | none => trivial
    | some kind => cases kind <;> trivial
  | succ depth ih =>
    intro kind
    cases kind with
    | none => exact ih _
    | some kind =>
      cases kind with
      | file => trivial
      | directory => exact ih _

theorem quiet_withNearestEnvFile : (l.withNearestEnvFile e).Quiet := by
  apply (quiet_findEnvFile "" e.depth).bind
  intro found
  cases found with
  | none => trivial
  | some path => exact l.quiet_withEnvFile e path

/-- Setting up a loader writes nothing. -/
theorem quiet_take (step : Step) : (l.take e step).Quiet := by
  cases step with
  | file path => exact l.quiet_withFile path
  | optionalFile path => exact l.quiet_withOptionalFile path
  | envFile path => exact l.quiet_withEnvFile e path
  | nearestEnvFile => exact l.quiet_withNearestEnvFile e
  | _ => trivial

/-! ## Loaders on given files -/

variable (fs : FileSystem)

theorem value_withFile (path : String) :
    ((l.withFile path).runOn fs).value =
      match kindIn fs path with
      | none => .error (.fileNotFound path)
      | some _ =>
        match fs.read path with
        | .error cause => .error (.unreadable path cause)
        | .ok text => (Config.ofFileText path text).map fun c =>
            { l with config := c, fileLoaded := true } := by
  unfold withFile
  rw [value_look_bind]
  cases kindIn fs path with
  | none => rfl
  | some kind =>
    show ((textOf path >>= _ : Session _).runOn fs).value = _
    rw [value_read_bind]
    cases fs.read path <;> rfl

theorem value_withOptionalFile (path : String) :
    ((l.withOptionalFile path).runOn fs).value =
      match kindIn fs path with
      | none => .ok l
      | some _ => ((l.withFile path).runOn fs).value := by
  unfold withOptionalFile
  rw [value_look_bind]
  cases kindIn fs path <;> rfl

theorem value_withEnvFile (path : String) :
    ((l.withEnvFile e path).runOn fs).value =
      match fs.read path with
      | .error .notFound => .error (.fileNotFound path)
      | .error _ => .error .invalidEnvFile
      | .ok text => l.withEntries e text := by
  unfold withEnvFile
  rw [value_read_bind]
  cases fs.read path with
  | error cause => cases cause <;> rfl
  | ok text => rfl

/-- The paths at which the file of variables is looked for: in the working directory and the
directories above. -/
def envFilePaths (depth : Nat) : List String :=
  (List.range (depth + 1)).map fun n => String.join (List.replicate n "../") ++ ".env"

theorem envFilePaths_succ (depth : Nat) :
    envFilePaths (depth + 1) = ".env" :: (envFilePaths depth).map ("../" ++ ·) := by
  unfold envFilePaths
  rw [List.range_succ_eq_map, List.map_cons, List.map_map, List.map_map]
  congr 1
  apply List.map_congr_left
  intro n _
  simp [List.replicate_succ, String.append_assoc]

/-- The search goes from the working directory up, and ends at the first file. -/
theorem value_findEnvFile (up : String) (depth : Nat) :
    ((findEnvFile up depth).runOn fs).value =
      ((envFilePaths depth).map (up ++ ·)).find? fun path => kindIn fs path = some .file := by
  induction depth generalizing up with
  | zero =>
    unfold findEnvFile
    rw [value_look_bind]
    show _ = List.find? _ [up ++ ".env"]
    cases hkind : kindIn fs (up ++ ".env") with
    | none => simp [List.find?, hkind]
    | some kind => cases kind <;> simp [List.find?, hkind]
  | succ depth ih =>
    -- the paths from the directory above are those behind the first one
    have hpaths : (envFilePaths (depth + 1)).map (up ++ ·) =
        (up ++ ".env") :: (envFilePaths depth).map (up ++ "../" ++ ·) := by
      rw [envFilePaths_succ, List.map_cons, List.map_map]
      simp [Function.comp_def, String.append_assoc]
    unfold findEnvFile
    rw [value_look_bind, hpaths]
    cases hkind : kindIn fs (up ++ ".env") with
    | none => simp [List.find?, hkind, ih]
    | some kind => cases kind <;> simp [List.find?, hkind, ih]

theorem value_withNearestEnvFile :
    ((l.withNearestEnvFile e).runOn fs).value =
      match (envFilePaths e.depth).find? fun path => kindIn fs path = some .file with
      | none => .ok l
      | some path => ((l.withEnvFile e path).runOn fs).value := by
  have hfound := value_findEnvFile fs "" e.depth
  unfold withNearestEnvFile
  rw [bind_eq, (quiet_findEnvFile "" e.depth).value_bind, hfound]
  simp only [String.empty_append, List.map_id']
  cases (envFilePaths e.depth).find? _ <;> rfl

/-- Steps on given files go on as long as they succeed. -/
theorem value_takeAll_cons (step : Step) (steps : List Step) :
    ((l.takeAll e (step :: steps)).runOn fs).value =
      ((l.take e step).runOn fs).value.bind fun l => ((l.takeAll e steps).runOn fs).value := by
  rw [takeAll, bind_eq, (l.quiet_take e step).value_bind]
  cases ((l.take e step).runOn fs).value <;> rfl

end Loader

end RouteMap
