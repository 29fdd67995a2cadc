import RouteMap.Proofs.Config.Validation
import RouteMap.Proofs.Generator.Writing

/-!
# The documents of a run

A valid configuration leaves nothing open that a document needs: whatever the
endpoints are, each document that is wanted has a name and is rendered
(`exists_produces`), so the files of a run are the wanted ones of two documents.
-/

namespace RouteMap

/-- The routes of endpoints that are not hidden from the mapping, in their order. -/
def Mapping.routesOf (es : List Endpoint) : List Mapping.Route :=
  ((es.map Endpoint.routing).filter fun r => !r.hidden).map Mapping.Route.ofRouting

/-- The entries of endpoints that are not hidden from the documentation, in their order. -/
def Documentation.entriesOf (es : List Endpoint) : List Documentation.Entry :=
  ((es.map Endpoint.guide).filter fun g => !g.hidden).map Documentation.Entry.ofGuide

/-! ## What a document shows -/

section

variable {α β : Type} {view : Endpoint → α} {hidden : α → Bool} {form : α → β}

/-- The forms in which a document has its view of some endpoints, without those that are
hidden from it. -/
def shown (view : Endpoint → α) (hidden : α → Bool) (form : α → β) (es : List Endpoint) :
    List β :=
  ((es.map view).filter fun a => !hidden a).map form

theorem Mapping.routesOf_eq_shown (es : List Endpoint) :
    Mapping.routesOf es =
      shown Endpoint.routing Endpoint.Routing.hidden Mapping.Route.ofRouting es := rfl

theorem Documentation.entriesOf_eq_shown (es : List Endpoint) :
    Documentation.entriesOf es =
      shown Endpoint.guide Endpoint.Guide.hidden Documentation.Entry.ofGuide es := rfl

/-- What a document shows is the form of an endpoint that is not hidden from it. -/
theorem exists_of_mem_shown {es : List Endpoint} {b : β} (h : b ∈ shown view hidden form es) :
    ∃ e ∈ es, hidden (view e) = false ∧ b = form (view e) := by
  obtain ⟨a, ha, rfl⟩ := List.mem_map.mp h
  obtain ⟨ha, hshown⟩ := List.mem_filter.mp ha
  obtain ⟨e, he, rfl⟩ := List.mem_map.mp ha
  rw [Bool.not_eq_true'] at hshown
  exact ⟨e, he, hshown, rfl⟩

/-- Endpoints that come from some sources are shown for the sources that hide nothing. -/
theorem shown_map {ι : Type} {source : ι → Endpoint} {hides : ι → Bool} {is : List ι}
    (h : ∀ i ∈ is, hidden (view (source i)) = hides i) :
    shown view hidden form (is.map source) =
      (is.filter fun i => !hides i).map fun i => form (view (source i)) := by
  unfold shown
  rw [List.map_map, List.filter_map, List.map_map]
  have hfilter : is.filter ((fun a => !hidden a) ∘ view ∘ source) =
      is.filter fun i => !hides i := by
    apply List.filter_congr
    intro i hi
    show (!hidden (view (source i))) = !hides i
    rw [h i hi]
  rw [hfilter]
  rfl

end

namespace Generator

/-- The files of a run: the mapping if it is wanted, then the documentation if it is. -/
def wantedFiles (g : Generator) (mappingName docsName : String) (m : Mapping)
    (d : Documentation) : List (String × String) :=
  (if g.config.wants .mapping then [(Path.join g.directory mappingName, m.text)] else []) ++
    (if g.config.wants .documentation then [(Path.join g.directory docsName, d.text)] else [])

/-- A generator produces two documents under two names for a list of endpoints. What a
document that is not wanted has from the configuration alone is left open. -/
structure Produces (g : Generator) (es : List Endpoint) (mappingName docsName : String)
    (m : Mapping) (d : Documentation) : Prop where
  mappingVersion : g.config.version? = some m.version
  docsVersion : g.config.version? = some d.version
  mappingFile : g.config.wants .mapping = true → g.config.mappingFile? = some mappingName
  docsFile : g.config.wants .documentation = true → g.config.docsFile? = some docsName
  backend : g.config.wants .mapping = true → g.config.backend = some (m.host, m.port)
  routes : m.routes = Mapping.routesOf es
  entries : d.entries = Documentation.entriesOf es
  renders : g.Renders es Output.all
  files : g.files es Output.all = g.wantedFiles mappingName docsName m d

/-- A mapping that is wanted has a name and is rendered. -/
theorem exists_mapping (g : Generator) (es : List Endpoint) :
    ∃ (name : String) (m : Mapping),
      g.config.version? = some m.version ∧ m.routes = Mapping.routesOf es ∧
      (g.config.wants .mapping = true →
        g.config.mappingFile? = some name ∧ g.config.backend = some (m.host, m.port)) ∧
      g.document es .mapping =
        if g.config.wants .mapping then some (name, .ok m.text) else none := by
  obtain ⟨⟨v, hv⟩, -, hmapping, -⟩ := (Config.validate_eq_ok_iff _).mp g.valid
  cases hwants : g.config.wants .mapping with
  | false =>
    refine ⟨"", { version := v, host := "", port := 0, routes := Mapping.routesOf es },
      hv, rfl, by simp, ?_⟩
    simp [document, hwants]
  | true =>
    obtain ⟨⟨host, hhost⟩, ⟨port, hport⟩, ⟨name, hname⟩⟩ := hmapping hwants
    have hbackend : g.config.backend = some (host, port) := by
      simp [Config.backend, hhost, hport]
    refine ⟨name, { version := v, host, port, routes := Mapping.routesOf es },
      hv, rfl, fun _ => ⟨hname, hbackend⟩, ?_⟩
    simp only [document, hwants, if_true, hname, Option.map_some, Config.heading, hv, hbackend]
    rfl

/-- A documentation that is wanted has a name and is rendered. -/
theorem exists_documentation (g : Generator) (es : List Endpoint) :
    ∃ (name : String) (d : Documentation),
      g.config.version? = some d.version ∧ d.entries = Documentation.entriesOf es ∧
      (g.config.wants .documentation = true → g.config.docsFile? = some name) ∧
      g.document es .documentation =
        if g.config.wants .documentation then some (name, .ok d.text) else none := by
  obtain ⟨⟨v, hv⟩, -, -, hdocs⟩ := (Config.validate_eq_ok_iff _).mp g.valid
  cases hwants : g.config.wants .documentation with
  | false =>
    refine ⟨"", { version := v, entries := Documentation.entriesOf es }, hv, rfl, by simp, ?_⟩
    simp [document, hwants]
  | true =>
    obtain ⟨name, hname⟩ := hdocs hwants
    refine ⟨name, { version := v, entries := Documentation.entriesOf es },
      hv, rfl, fun _ => hname, ?_⟩
    simp only [document, hwants, if_true, hname, Option.map_some, Config.heading, hv]
    rfl

/-- **Nothing is missing.** A valid configuration names and renders every document that
it wants. -/
theorem exists_produces (g : Generator) (es : List Endpoint) :
    ∃ mappingName docsName m d, g.Produces es mappingName docsName m d := by
  obtain ⟨mappingName, m, hmv, hroutes, hmapping, hmdoc⟩ := g.exists_mapping es
  obtain ⟨docsName, d, hdv, hentries, hdocs, hddoc⟩ := g.exists_documentation es
  refine ⟨mappingName, docsName, m, d, hmv, hdv, fun h => (hmapping h).1, hdocs,
    fun h => (hmapping h).2, hroutes, hentries, ?_, ?_⟩
  · intro o _ name e
    cases o with
    | mapping =>
      rw [hmdoc]
      split <;> simp
    | documentation =>
      rw [hddoc]
      split <;> simp
  · unfold files wantedFiles Output.all
    simp only [List.filterMap_cons, List.filterMap_nil, hmdoc, hddoc]
    cases g.config.wants .mapping <;> cases g.config.wants .documentation <;> rfl

end Generator

end RouteMap
