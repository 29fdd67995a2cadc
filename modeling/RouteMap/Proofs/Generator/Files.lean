import RouteMap.Proofs.Generator.Documents

/-!
# The files that a run leaves

After a successful run the documentation can be read under its path, and all files that
were not written are what they were. The mapping can be read under its path exactly if
the documentation was not written over it: the two names come from independent fields of
the configuration, and nothing keeps them from leading to one place.
-/

namespace RouteMap

/-- A mapping and a documentation of one version have different texts. -/
theorem Mapping.text_ne_text {m : Mapping} {d : Documentation} (h : m.version = d.version) :
    m.text ≠ d.text := by
  unfold Mapping.text Documentation.text Json.prettyText Mapping.toJson Documentation.toJson
  rw [h, Ne, String.ofList_inj]
  -- the texts are the same up to the name of their second field
  simp [Json.prettyAt, Json.prettyFields, Json.quote, Json.newline, Json.escape]

namespace Generator

open Session

section

variable {g : Generator} {es : List Endpoint} {mappingName docsName : String} {m : Mapping}
  {d : Documentation}

/-- The mapping that is produced is what is rendered for the endpoints. -/
theorem Produces.render_mapping (h : g.Produces es mappingName docsName m d)
    (hwants : g.config.wants .mapping = true) :
    Mapping.render g.config.heading es = .ok m.text := by
  have hmapping : Mapping.ofEndpoints g.config.heading es = .ok m := by
    obtain ⟨version, host, port, routes⟩ := m
    obtain rfl : routes = Mapping.routesOf es := h.routes
    simp only [Config.heading, h.mappingVersion, h.backend hwants]
    rfl
  rw [Mapping.render, hmapping]
  rfl

/-- The documentation that is produced is what is rendered for the endpoints. -/
theorem Produces.render_documentation (h : g.Produces es mappingName docsName m d) :
    Documentation.render g.config.heading.version es = .ok d.text := by
  have hdocs : Documentation.ofEndpoints g.config.heading.version es = .ok d := by
    obtain ⟨version, entries⟩ := d
    obtain rfl : entries = Documentation.entriesOf es := h.entries
    simp only [Config.heading, h.docsVersion]
    rfl
  rw [Documentation.render, hdocs]
  rfl

end

/-- A run that succeeds was assembled and has written all its files. -/
theorem writeFiles_of_success {g : Generator} {input : MethodSet} {fs : FileSystem}
    {summary : Summary} (success : ((g.run input).runOn fs).value = .ok summary) :
    ∃ es mappingName docsName m d, g.config.settings.assembleAll input.methods = .ok es ∧
      g.Produces es mappingName docsName m d ∧
      summary.written = (g.wantedFiles mappingName docsName m d).map Prod.fst ∧
      fs.writeFiles (g.wantedFiles mappingName docsName m d) =
        .ok ((g.run input).runOn fs).files := by
  have hruns := runs_runOn (g.run input) fs
  cases assembled : g.config.settings.assembleAll input.methods with
  | error batch =>
    rw [(g.runs_run_of_rejected assembled hruns).1] at success
    exact absurd success (by simp)
  | ok es =>
    obtain ⟨mappingName, docsName, m, d, h⟩ := g.exists_produces es
    obtain ⟨refusal, hturn, hvalue⟩ := g.runs_run assembled h.renders hruns
    rw [success] at hvalue
    rcases hturn.split with ⟨rfl, htries⟩ | ⟨_, _, _, _, _, -, rfl, -⟩
    · obtain rfl := Except.ok.inj hvalue
      have hfiles := hruns.writeFiles
      rw [htries, filesOf_map_success, h.files] at hfiles
      exact ⟨es, mappingName, docsName, m, d, rfl, h, by rw [h.files], hfiles⟩
    · exact absurd hvalue (by simp)

/-- What a successful run leaves: the documentation if it is wanted, the mapping if it is
wanted and the documentation was not written over it, and all other files as they were. -/
theorem run_leaves_documents {g : Generator} {input : MethodSet} {fs : FileSystem}
    {summary : Summary} (success : ((g.run input).runOn fs).value = .ok summary) :
    ∃ (es : List Endpoint) (mappingPath mappingText docsPath docsText : String),
      g.config.settings.assembleAll input.methods = .ok es ∧
      summary.written = (if g.config.wants .mapping then [mappingPath] else []) ++
        (if g.config.wants .documentation then [docsPath] else []) ∧
      (g.config.wants .mapping = true →
        g.config.mappingFile?.map (Path.join g.directory) = some mappingPath ∧
        Mapping.render g.config.heading es = .ok mappingText ∧
        (((g.run input).runOn fs).files.read mappingPath = .ok mappingText ↔
          (g.config.wants .documentation = true →
            fs.locate docsPath ≠ fs.locate mappingPath))) ∧
      (g.config.wants .documentation = true →
        g.config.docsFile?.map (Path.join g.directory) = some docsPath ∧
        Documentation.render g.config.heading.version es = .ok docsText ∧
        ((g.run input).runOn fs).files.read docsPath = .ok docsText) ∧
      ∀ place, (∀ path ∈ summary.written, fs.locate path ≠ .ok place) →
        ((g.run input).runOn fs).files.entry? place = fs.entry? place := by
  obtain ⟨es, mappingName, docsName, m, d, assembled, h, hwritten, hfiles⟩ :=
    writeFiles_of_success success
  refine ⟨es, Path.join g.directory mappingName, m.text, Path.join g.directory docsName,
    d.text, assembled, ?_, ?_, ?_, ?_⟩
  · rw [hwritten, wantedFiles]
    cases g.config.wants .mapping <;> cases g.config.wants .documentation <;> rfl
  · intro hmapping
    refine ⟨by rw [h.mappingFile hmapping]; rfl, h.render_mapping hmapping, ?_⟩
    simp only [wantedFiles, hmapping, if_true, List.cons_append, List.nil_append] at hfiles
    obtain ⟨place, hplace, hname⟩ := FileSystem.located_of_writeFiles hfiles List.mem_cons_self
    constructor
    · -- a mapping that was written over reads as the documentation
      intro hread hdocs hsame
      simp only [hdocs, if_true] at hfiles
      have hover := FileSystem.read_last_of_writeFiles
        [(Path.join g.directory mappingName, m.text)] hfiles (hsame.trans hplace) (by simp)
        hplace hname
      rw [hread] at hover
      have hversion : m.version = d.version :=
        Option.some.inj (h.mappingVersion.symm.trans h.docsVersion)
      exact Mapping.text_ne_text hversion (Except.ok.inj hover)
    · intro hkept
      apply FileSystem.read_last_of_writeFiles [] hfiles hplace _ hplace hname
      intro file hfile
      cases hdocs : g.config.wants .documentation with
      | false => simp [hdocs] at hfile
      | true =>
        rw [hdocs, if_pos rfl, List.mem_singleton] at hfile
        subst hfile
        rw [← hplace]
        exact hkept hdocs
  · intro hdocs
    refine ⟨by rw [h.docsFile hdocs]; rfl, h.render_documentation, ?_⟩
    simp only [wantedFiles, hdocs, if_true] at hfiles
    obtain ⟨place, hplace, hname⟩ :=
      FileSystem.located_of_writeFiles hfiles (List.mem_append_right _ List.mem_cons_self)
    exact FileSystem.read_last_of_writeFiles _ hfiles hplace (by simp) hplace hname
  · intro place hplace
    apply FileSystem.entry?_of_writeFiles hfiles
    intro file hfile
    apply hplace
    rw [hwritten]
    exact List.mem_map_of_mem hfile

/-- A generator whose two documents have one name. -/
def wantsOneName : Generator where
  config :=
    { version := some "v1"
      outputs := [.mapping, .documentation]
      mappingFile := some "api.json"
      docsFile := some "api.json"
      backendHost := some "localhost"
      backendPort := some 1212 }
  valid := rfl

/-- A run that reports two documents under one name has lost the first of them. -/
theorem run_loses_mapping :
    ((wantsOneName.run {}).runOn {}).value =
        .ok { endpoints := 0, written := ["./api.json", "./api.json"] } ∧
      ∃ es text, wantsOneName.config.settings.assembleAll [] = .ok es ∧
        Mapping.render wantsOneName.config.heading es = .ok text ∧
        ((wantsOneName.run {}).runOn {}).files.read "./api.json" ≠ .ok text := by
  have success : ((wantsOneName.run {}).runOn {}).value =
      .ok { endpoints := 0, written := ["./api.json", "./api.json"] } := by
    have assembled : wantsOneName.config.settings.assembleAll [] = .ok [] := by
      simp [Settings.assembleAll, Settings.failures, Settings.endpoints, Endpoint.sorted]
    rw [(wantsOneName.run_of_assembled assembled {}).1]
    rfl
  obtain ⟨es, mappingPath, text, docsPath, _, assembled, -, hmapping, hdocs, -⟩ :=
    run_leaves_documents success
  obtain ⟨hpath, hrender, hread⟩ := hmapping rfl
  obtain ⟨hdocsPath, -, -⟩ := hdocs rfl
  obtain rfl : "./api.json" = mappingPath := Option.some.inj hpath
  obtain rfl : "./api.json" = docsPath := Option.some.inj hdocsPath
  refine ⟨success, es, text, assembled, hrender, ?_⟩
  intro hkept
  exact hread.mp hkept rfl rfl

end Generator

end RouteMap
