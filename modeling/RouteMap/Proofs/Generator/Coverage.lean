import RouteMap.Proofs.Document.RoundTrip
import RouteMap.Proofs.Endpoint.Ranking
import RouteMap.Proofs.Generator.Documents

/-!
# The documents list the endpoints

A run that succeeds has lost no endpoint and invented none. The link between its
methods and its documents is their ranking: whoever reads the texts that were written finds
in both of them what is read off the ranking, without the methods that are hidden from the
document.
-/

namespace RouteMap

/-- Two documents list the endpoints among some methods. -/
structure Listing (c : Config) (ms : List Method) (ranked : List (Method × Nat))
    (route : Method → Mapping.Route) (entry : Method → Documentation.Entry)
    (m : Mapping) (d : Documentation) : Prop where
  /-- The ranking has every endpoint once, with its place among the methods. -/
  complete : ranked.Perm (ms.zipIdx.filter fun p => p.1.isEndpoint)
  /-- It is in the order of the positions, and for one position of the places. -/
  ordered : ranked.Pairwise (Before Method.order)
  /-- A method has the route and the entry of its endpoint. -/
  assembled : ∀ p ∈ ranked, ∃ e, c.settings.assemble p.1 = .ok (some e) ∧
    route p.1 = .ofRouting e.routing ∧ entry p.1 = .ofGuide e.guide
  routes : m.routes = (ranked.filter fun p => !p.1.isHidden).map fun p => route p.1
  entries : d.entries = (ranked.filter fun p => !p.1.isDocsHidden).map fun p => entry p.1
  /-- Paths are those of the tags, with the version in front, and both are trimmed. -/
  path : ∀ p ∈ ranked, ∃ version external, c.version = some version ∧
    p.1.index.get? Tag.Key.external = some external ∧
    (route p.1).path = "/" ++ Text.trimmed version ++ Text.trimmed external
  visible : (∀ r ∈ m.routes, r.hidden = false) ∧ ∀ e ∈ d.entries, e.hidden = false
  /-- Route and entry of a method say the same. -/
  agree : ∀ p ∈ ranked, (entry p.1).path = (route p.1).path ∧
    (entry p.1).verb = (route p.1).verb ∧ (entry p.1).scope = (route p.1).scope ∧
    (entry p.1).variableNames = (route p.1).variableNames ∧
    (entry p.1).variableExpressions = (route p.1).variableExpressions ∧
    (entry p.1).properties = (route p.1).properties

namespace Generator

open Session Settings

/-- The documents that a generator produces for assembled methods list their endpoints. -/
theorem listing_of_produces {g : Generator} {ms : List Method} {es : List Endpoint}
    (assembled : g.config.settings.assembleAll ms = .ok es)
    {mappingName docsName : String} {m : Mapping} {d : Documentation}
    (h : g.Produces es mappingName docsName m d) :
    Listing g.config ms (ranking ms)
      (fun method => .ofRouting (g.config.settings.endpointOf method).routing)
      (fun method => .ofGuide (g.config.settings.endpointOf method).guide) m d := by
  have heach : ∀ p ∈ ranking ms, g.config.settings.assemble p.1 =
      .ok (some (g.config.settings.endpointOf p.1)) := fun p hp =>
    assemble_eq_endpointOf assembled (mem_of_mem_ranking hp).1 (mem_of_mem_ranking hp).2
  have hes := assembleAll_eq_map_ranking assembled
  refine
    { complete := ranking_perm ms
      ordered := ranking_ordered ms
      assembled := fun p hp => ⟨_, heach p hp, rfl, rfl⟩
      routes := ?_
      entries := ?_
      path := ?_
      visible := ⟨?_, ?_⟩
      agree := ?_ }
  · rw [h.routes, hes, Mapping.routesOf_eq_shown]
    exact shown_map fun p hp => (hidden_of_assemble (heach p hp)).1
  · rw [h.entries, hes, Documentation.entriesOf_eq_shown]
    exact shown_map fun p hp => (hidden_of_assemble (heach p hp)).2
  · intro p hp
    obtain ⟨external, hexternal, hpath, -⟩ := path_of_assemble (heach p hp)
    obtain ⟨version, hversion, htrim⟩ := Config.given_eq_some h.mappingVersion
    rw [Config.settings_version h.mappingVersion, ← htrim] at hpath
    exact ⟨version, external, hversion, hexternal, hpath⟩
  · intro r hr
    rw [h.routes] at hr
    obtain ⟨e, -, hvisible, rfl⟩ := exists_of_mem_shown hr
    exact hvisible
  · intro entry hentry
    rw [h.entries] at hentry
    obtain ⟨e, -, hvisible, rfl⟩ := exists_of_mem_shown hentry
    exact hvisible
  · intro p hp
    obtain ⟨-, -, -, hpath⟩ := path_of_assemble (heach p hp)
    obtain ⟨hverb, hscope, hvariables, hproperties⟩ := views_agree (heach p hp)
    exact ⟨hpath, hverb, hscope, congrArg PathVariable.names hvariables,
      congrArg PathVariable.expressions hvariables, hproperties⟩

/-- **Every endpoint is listed.** A successful run counts the methods that are endpoints. It
writes texts under the names of the configuration, the one for the mapping if it is wanted and
the one for the documentation if it is, and these texts are read back as documents that list the
endpoints: each method once, in the order of positions and places, without those that are hidden
from the document. -/
theorem run_lists_endpoints {g : Generator} {input : MethodSet} {fs : FileSystem}
    {summary : Summary} (success : ((g.run input).runOn fs).value = .ok summary) :
    summary.endpoints = (input.methods.filter Method.isEndpoint).length ∧
      ∃ (mappingName mappingText docsName docsText : String) (m : Mapping) (d : Documentation),
        (g.config.wants .mapping = true → g.config.mappingFile? = some mappingName) ∧
        (g.config.wants .documentation = true → g.config.docsFile? = some docsName) ∧
        (g.run input).attempts fs =
          (if g.config.wants .mapping then
            [.success (Path.join g.directory mappingName, mappingText)] else []) ++
          (if g.config.wants .documentation then
            [.success (Path.join g.directory docsName, docsText)] else []) ∧
        Mapping.ofText mappingText = .ok m ∧ Documentation.ofText docsText = .ok d ∧
        ∃ ranked route entry, Listing g.config input.methods ranked route entry m d := by
  cases assembled : g.config.settings.assembleAll input.methods with
  | error batch =>
    -- a run that was not assembled has no summary
    rw [(g.run_of_rejected assembled fs).1] at success
    exact absurd success (by simp)
  | ok es =>
    obtain ⟨mappingName, docsName, m, d, h⟩ := g.exists_produces es
    rcases g.run_cases assembled h.renders fs with
      ⟨hvalue, hattempts⟩ | ⟨_, _, _, _, _, -, hvalue, -⟩
    · -- all documents were written
      rw [hvalue] at success
      obtain rfl := Except.ok.inj success
      refine ⟨?_, mappingName, m.text, docsName, d.text, m, d, h.mappingFile, h.docsFile, ?_,
        m.ofText_text, d.ofText_text, _, _, _, listing_of_produces assembled h⟩
      · have hranked := (ranking_perm input.methods).length_eq
        have hplaces := congrArg List.length (map_fst_filter_zipIdx input.methods)
        rw [List.length_map] at hplaces
        rw [← hplaces, ← hranked, assembleAll_eq_map_ranking assembled, List.length_map]
      · rw [hattempts, h.files, wantedFiles]
        cases g.config.wants .mapping <;> cases g.config.wants .documentation <;> rfl
    · -- a write that failed leaves no summary either
      rw [hvalue] at success
      exact absurd success (by simp)

/-- A generator that wants both documents. -/
def wantsBoth : Generator where
  config :=
    { version := some " v1 "
      outputs := [.mapping, .documentation]
      mappingFile := some "mapping.json"
      docsFile := some "docs.json"
      backendHost := some "localhost"
      backendPort := some 1212 }
  valid := by decide

/-- Two endpoints in the reverse of their order, one of them hidden, and a method that is
no endpoint. -/
def listAndShow : MethodSet where
  methods :=
    [{ name := "list",
       tags := [⟨"apifest.external", " /list "⟩, ⟨"apifest.docs.order", "2"⟩] },
     { name := "helper" },
     { name := "show",
       tags := [⟨"apifest.external", "/show"⟩, ⟨"apifest.docs.order", " 1 "⟩,
         ⟨"apifest.hidden", ""⟩] }]

/-- Both documents are written under their names, and what is read back lists the endpoints. -/
theorem run_lists_list_and_show :
    ((wantsBoth.run listAndShow).runOn {}).value =
        .ok { endpoints := 2, written := ["./mapping.json", "./docs.json"] } ∧
      ∃ (mappingText docsText : String) (m : Mapping) (d : Documentation),
        (wantsBoth.run listAndShow).attempts {} =
          [.success ("./mapping.json", mappingText), .success ("./docs.json", docsText)] ∧
        Mapping.ofText mappingText = .ok m ∧ Documentation.ofText docsText = .ok d ∧
        ∃ ranked route entry,
          Listing wantsBoth.config listAndShow.methods ranked route entry m d := by
  have assembled : wantsBoth.config.settings.assembleAll listAndShow.methods = .ok _ :=
    (assembleAll_eq_ok_iff _ _ _).mpr ⟨by decide, rfl⟩
  have hlength : (Endpoint.sorted
      (wantsBoth.config.settings.endpoints listAndShow.methods)).length = 2 := by
    rw [Endpoint.sorted, List.length_mergeSort]
    decide
  have success : ((wantsBoth.run listAndShow).runOn {}).value =
      .ok { endpoints := 2, written := ["./mapping.json", "./docs.json"] } := by
    rw [(wantsBoth.run_of_assembled assembled {}).1, ← hlength]
    rfl
  obtain ⟨-, mappingName, mappingText, docsName, docsText, m, d, hmapping, hdocs, hattempts,
    hlisting⟩ := run_lists_endpoints success
  obtain rfl : "mapping.json" = mappingName := Option.some.inj (hmapping rfl)
  obtain rfl : "docs.json" = docsName := Option.some.inj (hdocs rfl)
  exact ⟨success, mappingText, docsText, m, d, hattempts, hlisting⟩

end Generator

end RouteMap
