import RouteMap.Proofs.Document.RoundTrip
import RouteMap.Proofs.Endpoint.Views
import RouteMap.Proofs.Generator.Documents

/-!
# Validation is sufficient

A configuration that `validate` accepts gives a generator, and the run of the generator
on methods that can be assembled ends in one of two ways: every document that is wanted
is written and reported, or a write fails. Nothing that a document needs is missing, and
no document is passed over.
-/

namespace RouteMap.Generator

open Session

/-- A valid configuration gives a generator for the directory, or for the working
directory if none is given. -/
theorem exists_ofConfig {c : Config} (valid : c.validate = .ok ())
    (directory : Option String) :
    ∃ g, ofConfig c directory = .ok g ∧ g.config = c ∧ g.directory = directory.getD "." := by
  refine ⟨{ config := c, valid, directory := directory.getD "." }, ?_, rfl, rfl⟩
  unfold ofConfig
  split
  · rfl
  · next e herror =>
    rw [valid] at herror
    exact absurd herror (by simp)

/-- A run writes files in turn. Either it writes all of them and reports their paths, or
it stops at one that cannot be written, and this is its error. -/
def Writes (g : Generator) (input : MethodSet) (fs : FileSystem)
    (files : List (String × String)) : Prop :=
  (∃ n, ((g.run input).runOn fs).value =
        .ok { endpoints := n, written := files.map Prod.fst } ∧
      (g.run input).attempts fs = files.map Attempt.success) ∨
    ∃ before path text after cause, files = before ++ (path, text) :: after ∧
      ((g.run input).runOn fs).value = .error (.document (.unwritable path cause)) ∧
      (g.run input).attempts fs = before.map Attempt.success ++ [⟨path, text, some cause⟩]

theorem writes_of_produces {g : Generator} {input : MethodSet} {es : List Endpoint}
    (assembled : g.config.settings.assembleAll input.methods = .ok es)
    {mappingName docsName : String} {m : Mapping} {d : Documentation}
    (h : g.Produces es mappingName docsName m d) (fs : FileSystem) :
    g.Writes input fs (g.wantedFiles mappingName docsName m d) := by
  rw [← h.files]
  rcases g.run_cases assembled h.renders fs with ⟨hvalue, hattempts⟩ | hfailed
  · exact .inl ⟨es.length, hvalue, hattempts⟩
  · exact .inr hfailed

/-- What a document shows comes from a method whose endpoint is not hidden from it. -/
theorem exists_method_of_mem_shown {α β : Type} {view : Endpoint → α} {hidden : α → Bool}
    {form : α → β} {s : Settings} {ms : List Method} {es : List Endpoint}
    (assembled : s.assembleAll ms = .ok es) {b : β} (h : b ∈ shown view hidden form es) :
    ∃ method ∈ ms, ∃ e, s.assemble method = .ok (some e) ∧ b = form (view e) := by
  obtain ⟨e, he, -, rfl⟩ := exists_of_mem_shown h
  obtain ⟨method, hmethod, hassemble⟩ := Settings.exists_method_of_mem assembled he
  exact ⟨method, hmethod, e, hassemble, rfl⟩

/-- **Validation is sufficient.** A valid configuration gives a generator, and on methods
that can be assembled its run writes the mapping if it is wanted and then the
documentation if it is, unless a write fails. The texts that it writes are read back as these
documents. Both documents have the trimmed version, which stands in front of all their paths,
and every route has the backend of its own method if that has one, else the backend of the
mapping. -/
theorem run_of_validate {c : Config} (valid : c.validate = .ok ())
    (directory : Option String) {input : MethodSet} {es : List Endpoint}
    (assembled : c.settings.assembleAll input.methods = .ok es) :
    ∃ g, ofConfig c directory = .ok g ∧
      g.config = c ∧ g.directory = directory.getD "." ∧
      ∃ (mappingName docsName : String) (m : Mapping) (d : Documentation),
        (∀ fs, g.Writes input fs (g.wantedFiles mappingName docsName m d)) ∧
        Mapping.ofText m.text = .ok m ∧ Documentation.ofText d.text = .ok d ∧
        (c.wants .mapping = true → c.mappingFile? = some mappingName) ∧
        (c.wants .documentation = true → c.docsFile? = some docsName) ∧
        (∃ raw, c.version = some raw ∧ m.version = Text.trimmed raw ∧
          d.version = Text.trimmed raw) ∧
        (∀ r ∈ m.routes, ∃ method ∈ input.methods, ∃ e external,
          c.settings.assemble method = .ok (some e) ∧ r = Mapping.Route.ofRouting e.routing ∧
          method.index.get? Tag.Key.external = some external ∧
          r.path = "/" ++ m.version ++ Text.trimmed external ∧
          (c.wants .mapping = true →
            r.backendHost = some (method.ownBackend?.getD (m.host, m.port)).1 ∧
            r.backendPort = some (method.ownBackend?.getD (m.host, m.port)).2)) ∧
        (∀ entry ∈ d.entries, ∃ method ∈ input.methods, ∃ e external,
          c.settings.assemble method = .ok (some e) ∧
          entry = Documentation.Entry.ofGuide e.guide ∧
          method.index.get? Tag.Key.external = some external ∧
          entry.path = "/" ++ d.version ++ Text.trimmed external) := by
  obtain ⟨g, hg, rfl, hdirectory⟩ := exists_ofConfig valid directory
  obtain ⟨mappingName, docsName, m, d, h⟩ := g.exists_produces es
  refine ⟨g, hg, rfl, hdirectory, ?_⟩
  refine ⟨mappingName, docsName, m, d, writes_of_produces assembled h, m.ofText_text,
    d.ofText_text, h.mappingFile, h.docsFile, ?_, ?_, ?_⟩
  · -- both documents have the version of the configuration
    obtain ⟨raw, hraw, htrim⟩ := Config.given_eq_some h.mappingVersion
    have hsame : m.version = d.version :=
      Option.some.inj (h.mappingVersion.symm.trans h.docsVersion)
    exact ⟨raw, hraw, htrim.symm, by rw [htrim, hsame]⟩
  · -- a route has the path and the backend of its method
    intro r hr
    rw [h.routes] at hr
    obtain ⟨method, hmethod, e, hassemble, rfl⟩ := exists_method_of_mem_shown assembled hr
    obtain ⟨external, hexternal, hpath, -⟩ := Settings.path_of_assemble hassemble
    rw [Config.settings_version h.mappingVersion] at hpath
    refine ⟨method, hmethod, e, external, hassemble, rfl, hexternal, hpath, ?_⟩
    intro hwants
    obtain ⟨hhost, hport⟩ := Config.settings_backend (h.backend hwants)
    exact Settings.backend_of_assemble hassemble hhost hport
  · -- an entry has the path of its method
    intro entry hentry
    rw [h.entries] at hentry
    obtain ⟨method, hmethod, e, hassemble, rfl⟩ := exists_method_of_mem_shown assembled hentry
    obtain ⟨external, hexternal, hpath, hguide⟩ := Settings.path_of_assemble hassemble
    rw [Config.settings_version h.docsVersion] at hpath
    refine ⟨method, hmethod, e, external, hassemble, rfl, hexternal, ?_⟩
    rw [← hpath]
    exact hguide

/-- A configuration whose values are written in unusual forms: with blanks around them,
with `null` for the name of the mapping, and with repeated outputs in reverse. -/
def unusual : Config where
  version := some " v1 "
  outputs := [.documentation, .mapping, .mapping]
  mappingFile := some " NuLL "
  docsFile := some "docs.json"
  backendHost := some "localhost"
  backendPort := some 1212

/-- Methods with one endpoint. -/
def onePing : MethodSet where
  methods := [{ name := "ping", tags := [⟨"apifest.external", " /ping "⟩] }]

/-- The run writes under both names, and both texts are read back with the trimmed version. -/
theorem run_of_validate_unusual :
    unusual.validate = .ok () ∧
      (∃ es, unusual.settings.assembleAll onePing.methods = .ok es) ∧
      ∃ g, ofConfig unusual none = .ok g ∧ ∃ (m : Mapping) (d : Documentation),
        (∀ fs, g.Writes onePing fs
          [("./output_mapping_v1.json", m.text), ("./docs.json", d.text)]) ∧
        Mapping.ofText m.text = .ok m ∧ m.version = "v1" ∧
        Documentation.ofText d.text = .ok d ∧ d.version = "v1" := by
  have valid : unusual.validate = .ok () := by decide
  have assembled : unusual.settings.assembleAll onePing.methods = .ok _ :=
    (Settings.assembleAll_eq_ok_iff _ _ _).mpr ⟨by decide, rfl⟩
  obtain ⟨g, hg, hconfig, hdirectory, mappingName, docsName, m, d, hwrites, hm, hd, hmapping,
    hdocs, ⟨raw, hraw, hmv, hdv⟩, -⟩ := run_of_validate valid none assembled
  have hmappingName : unusual.mappingFile? = some "output_mapping_v1.json" := by decide
  have hdocsName : unusual.docsFile? = some "docs.json" := by decide
  obtain rfl := Option.some.inj (hmappingName.symm.trans (hmapping (by decide)))
  obtain rfl := Option.some.inj (hdocsName.symm.trans (hdocs (by decide)))
  obtain rfl : " v1 " = raw := Option.some.inj hraw
  refine ⟨valid, ⟨_, assembled⟩, g, hg, m, d, ?_, hm, ?_, hd, ?_⟩
  · intro fs
    have h := hwrites fs
    unfold wantedFiles at h
    rw [hconfig, hdirectory] at h
    exact h
  · rw [hmv]
    decide
  · rw [hdv]
    decide

end RouteMap.Generator
