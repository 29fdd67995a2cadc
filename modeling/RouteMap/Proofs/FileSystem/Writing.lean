import RouteMap.FileSystem.Basic

/-!
# What writing does to a file system

A write that succeeds changes one entry, that of the file it writes (`exists_wrote`). The
directories stay what they are, so every path leads where it led before
(`Wrote.locate_iff`): the text can be read under its path (`Wrote.read_path`), and a text
at another place can still be read (`Wrote.read_other`).
-/

namespace RouteMap.FileSystem

/-- What the write of a text under a path does: the path leads to a place that is no
directory, and the text is put there. -/
structure Wrote (fs fs' : FileSystem) (path s : String) (place : List String) : Prop where
  located : fs.locate path = .ok place
  isName : Path.endsInDirectory path = false
  notDirectory : fs.entry? place ≠ some .directory
  entry : ∀ p, fs'.entry? p = if p = place then some (.text s) else fs.entry? p
  workingDirectory : fs'.workingDirectory = fs.workingDirectory

theorem lookup_put (place : List String) (s : String) (entries : List (List String × Entry))
    (p : List String) :
    (put place s entries).lookup p = if p = place then some (.text s) else entries.lookup p := by
  induction entries with
  | nil =>
    by_cases hp : p = place
    · simp [put, hp]
    · have hb : (p == place) = false := beq_false_of_ne hp
      simp [put, List.lookup_cons, hp, hb]
  | cons e rest ih =>
    obtain ⟨q, entry⟩ := e
    rw [put]
    by_cases hq : q = place
    · subst hq
      rw [if_pos rfl, List.lookup_cons, List.lookup_cons]
      by_cases hp : p = q
      · simp [hp]
      · have hb : (p == q) = false := beq_false_of_ne hp
        simp [hp, hb]
    · rw [if_neg hq, List.lookup_cons, List.lookup_cons, ih]
      by_cases hp : p = q
      · subst hp
        simp [hq]
      · have hb : (p == q) = false := beq_false_of_ne hp
        simp [hb]

theorem entry?_nil (fs : FileSystem) : fs.entry? [] = some .directory := rfl

theorem entry?_put (fs : FileSystem) {place : List String} (hplace : place ≠ []) (s : String)
    (p : List String) :
    entry? { fs with entries := put place s fs.entries } p =
      if p = place then some (.text s) else fs.entry? p := by
  cases p with
  | nil => rw [if_neg (Ne.symm hplace), entry?_nil, entry?_nil]
  | cons c cs =>
    show (put place s fs.entries).lookup (c :: cs) = _
    rw [lookup_put]
    rfl

/-- A write that succeeds changes the entry of one file. -/
theorem exists_wrote {fs fs' : FileSystem} {path s : String}
    (h : fs.write path s = .ok fs') : ∃ place, Wrote fs fs' path s place := by
  unfold write writable at h
  cases hholder : fs.holder path with
  | error e => simp [hholder, Except.map] at h
  | ok dir =>
    simp only [hholder] at h
    cases hname : Path.endsInDirectory path with
    | true => simp [hname, Except.map] at h
    | false =>
      cases hlocate : fs.locate path with
      | error e => simp [hname, hlocate, Except.map] at h
      | ok place =>
        by_cases hdir : fs.entry? place = some .directory
        · simp [hname, hlocate, hdir, Except.map] at h
        · simp only [hname, hlocate, hdir, Bool.false_eq_true, if_false, Except.map,
            Except.ok.injEq] at h
          subst h
          have hplace : place ≠ [] := by
            rintro rfl
            exact hdir fs.entry?_nil
          exact ⟨place, hlocate, hname, hdir, fs.entry?_put hplace s, rfl⟩

/-- Where the directories are the same, steps lead to the same places. -/
theorem follow_eq_ok_iff {fs fs' : FileSystem}
    (h : ∀ p, fs'.entry? p = some .directory ↔ fs.entry? p = some .directory)
    (place steps target : List String) :
    fs'.follow place steps = .ok target ↔ fs.follow place steps = .ok target := by
  induction steps generalizing place with
  | nil => rfl
  | cons c cs ih =>
    by_cases hdir : fs.entry? place = some .directory
    · simp only [follow, hdir, (h place).mpr hdir]
      split
      · exact ih place
      · split
        · exact ih place.dropLast
        · split
          · rfl
          · exact ih (place ++ [c])
    · -- neither file system lets anyone pass through what is no directory
      have hno : ∀ fs'' : FileSystem, fs''.entry? place ≠ some .directory →
          fs''.follow place (c :: cs) ≠ .ok target := by
        intro fs'' hne hfollow
        rw [follow] at hfollow
        split at hfollow
        · exact absurd hfollow (by simp)
        · next heq => exact hne heq
        · exact absurd hfollow (by simp)
      have hdir' : fs'.entry? place ≠ some .directory := fun heq => hdir ((h place).mp heq)
      exact ⟨fun hf => absurd hf (hno fs' hdir'), fun hf => absurd hf (hno fs hdir)⟩

theorem read_eq_ok_iff (fs : FileSystem) (path s : String) :
    fs.read path = .ok s ↔ ∃ place, fs.locate path = .ok place ∧
      fs.entry? place = some (.text s) ∧ Path.endsInDirectory path = false := by
  unfold read look
  cases fs.locate path with
  | error e => simp
  | ok place =>
    cases hentry : fs.entry? place with
    | none => simp [hentry]
    | some entry =>
      cases entry <;> cases hname : Path.endsInDirectory path <;> simp [hentry]

section

variable {fs fs' : FileSystem} {path s : String} {place : List String}

/-- The directories are the same before and after a write. -/
theorem Wrote.directory_iff (h : Wrote fs fs' path s place) (p : List String) :
    fs'.entry? p = some .directory ↔ fs.entry? p = some .directory := by
  rw [h.entry p]
  by_cases hp : p = place
  · subst hp
    simp [h.notDirectory]
  · rw [if_neg hp]

/-- Every path leads to where it led before. -/
theorem Wrote.locate_iff (h : Wrote fs fs' path s place) (q : String) (target : List String) :
    fs'.locate q = .ok target ↔ fs.locate q = .ok target := by
  unfold locate start
  rw [h.workingDirectory]
  cases unusable q with
  | some e => rfl
  | none => exact follow_eq_ok_iff h.directory_iff _ _ _

/-- The text can be read under its path, and under every other that leads there. -/
theorem Wrote.read_place (h : Wrote fs fs' path s place) {q : String}
    (hq : fs.locate q = .ok place) (hname : Path.endsInDirectory q = false) :
    fs'.read q = .ok s := by
  rw [read_eq_ok_iff]
  refine ⟨place, (h.locate_iff q place).mpr hq, ?_, hname⟩
  rw [h.entry place, if_pos rfl]

theorem Wrote.read_path (h : Wrote fs fs' path s place) : fs'.read path = .ok s :=
  h.read_place h.located h.isName

/-- A text at another place can be read as before. -/
theorem Wrote.read_other (h : Wrote fs fs' path s place) {q t : String}
    (hq : fs.locate q ≠ .ok place) (hread : fs.read q = .ok t) : fs'.read q = .ok t := by
  obtain ⟨p, hp, hentry, hname⟩ := (read_eq_ok_iff fs q t).mp hread
  have hne : p ≠ place := by
    rintro rfl
    exact hq hp
  rw [read_eq_ok_iff]
  refine ⟨p, (h.locate_iff q p).mpr hp, ?_, hname⟩
  rw [h.entry p, if_neg hne, hentry]

end

/-! ## Several texts -/

/-- The file system after texts were written under paths, one after another. -/
def writeFiles (fs : FileSystem) : List (String × String) → Except FileError FileSystem
  | [] => .ok fs
  | (path, s) :: files =>
    match fs.write path s with
    | .ok fs => fs.writeFiles files
    | .error e => .error e

theorem writeFiles_cons_eq_ok_iff (fs after : FileSystem) (path s : String)
    (files : List (String × String)) :
    fs.writeFiles ((path, s) :: files) = .ok after ↔
      ∃ mid, fs.write path s = .ok mid ∧ mid.writeFiles files = .ok after := by
  rw [writeFiles]
  cases fs.write path s <;> simp

/-- Files to which none of the paths leads stay what they are. -/
theorem entry?_of_writeFiles {fs after : FileSystem} {files : List (String × String)}
    (h : fs.writeFiles files = .ok after) {place : List String}
    (hplace : ∀ file ∈ files, fs.locate file.1 ≠ .ok place) :
    after.entry? place = fs.entry? place := by
  induction files generalizing fs with
  | nil =>
    cases h
    rfl
  | cons file files ih =>
    obtain ⟨path, s⟩ := file
    obtain ⟨mid, hwrite, hrest⟩ := (writeFiles_cons_eq_ok_iff fs after path s files).mp h
    obtain ⟨written, hwrote⟩ := exists_wrote hwrite
    have hne : place ≠ written := by
      rintro rfl
      exact hplace (path, s) List.mem_cons_self hwrote.located
    have hmid : mid.entry? place = fs.entry? place := by rw [hwrote.entry, if_neg hne]
    rw [ih hrest, hmid]
    intro file hfile hlocate
    exact hplace file (List.mem_cons_of_mem _ hfile) ((hwrote.locate_iff _ _).mp hlocate)

/-- Texts that were written under paths have these as the names of files. -/
theorem located_of_writeFiles {fs after : FileSystem} {files : List (String × String)}
    (h : fs.writeFiles files = .ok after) {file : String × String} (hfile : file ∈ files) :
    ∃ place, fs.locate file.1 = .ok place ∧ Path.endsInDirectory file.1 = false := by
  induction files generalizing fs with
  | nil => cases hfile
  | cons head files ih =>
    obtain ⟨path, s⟩ := head
    obtain ⟨mid, hwrite, hrest⟩ := (writeFiles_cons_eq_ok_iff fs after path s files).mp h
    obtain ⟨written, hwrote⟩ := exists_wrote hwrite
    rcases List.mem_cons.mp hfile with rfl | hfile
    · exact ⟨written, hwrote.located, hwrote.isName⟩
    · obtain ⟨place, hplace, hname⟩ := ih hrest hfile
      exact ⟨place, (hwrote.locate_iff _ _).mp hplace, hname⟩

/-- A text at a place to which none of the paths leads can be read as before. -/
theorem read_other_of_writeFiles {fs after : FileSystem} {files : List (String × String)}
    (h : fs.writeFiles files = .ok after) {q s : String} {place : List String}
    (hq : fs.locate q = .ok place) (hfiles : ∀ file ∈ files, fs.locate file.1 ≠ .ok place)
    (hread : fs.read q = .ok s) : after.read q = .ok s := by
  induction files generalizing fs with
  | nil =>
    cases h
    exact hread
  | cons head files ih =>
    obtain ⟨path, t⟩ := head
    obtain ⟨mid, hwrite, hrest⟩ := (writeFiles_cons_eq_ok_iff fs after path t files).mp h
    obtain ⟨written, hwrote⟩ := exists_wrote hwrite
    apply ih hrest ((hwrote.locate_iff _ _).mpr hq)
    · intro file hfile hlocate
      exact hfiles file (List.mem_cons_of_mem _ hfile) ((hwrote.locate_iff _ _).mp hlocate)
    · apply hwrote.read_other _ hread
      rw [hq, ← hwrote.located]
      intro hsame
      exact hfiles (path, t) List.mem_cons_self hsame.symm

/-- **The last text counts.** What can be read at a place is the text that was written there
last, under whatever path. -/
theorem read_last_of_writeFiles {fs after : FileSystem} (before : List (String × String))
    {rest : List (String × String)} {path s : String}
    (h : fs.writeFiles (before ++ (path, s) :: rest) = .ok after) {place : List String}
    (hpath : fs.locate path = .ok place)
    (hlast : ∀ file ∈ rest, fs.locate file.1 ≠ .ok place)
    {q : String} (hq : fs.locate q = .ok place) (hname : Path.endsInDirectory q = false) :
    after.read q = .ok s := by
  induction before generalizing fs with
  | nil =>
    obtain ⟨mid, hwrite, hrest⟩ := (writeFiles_cons_eq_ok_iff fs after path s rest).mp h
    obtain ⟨written, hwrote⟩ := exists_wrote hwrite
    obtain rfl : written = place := by
      rw [hwrote.located] at hpath
      exact Except.ok.inj hpath
    apply read_other_of_writeFiles hrest ((hwrote.locate_iff _ _).mpr hq)
    · intro file hfile hlocate
      exact hlast file hfile ((hwrote.locate_iff _ _).mp hlocate)
    · exact hwrote.read_place hq hname
  | cons head before ih =>
    obtain ⟨p, t⟩ := head
    obtain ⟨mid, hwrite, hrest⟩ := (writeFiles_cons_eq_ok_iff fs after p t _).mp h
    obtain ⟨written, hwrote⟩ := exists_wrote hwrite
    apply ih hrest ((hwrote.locate_iff _ _).mpr hpath) _ ((hwrote.locate_iff _ _).mpr hq)
    intro file hfile hlocate
    exact hlast file hfile ((hwrote.locate_iff _ _).mp hlocate)

end RouteMap.FileSystem
