import RouteMap.Proofs.Endpoint.Batch
import RouteMap.Proofs.Tag.Index

/-!
# The two views do not interfere

Both views of an endpoint are read from one index of tags. The names that begin with
`apifest.docs.` are for the documentation alone, and of the others it reads only those that
both views share: the two paths, the scope and the expressions of path variables. So no tag
for the documentation changes the routing, and no other tag and no setting for the gateway
changes the guide (`views_do_not_interfere`). The order of the tags shows in the three lists
of the guide, and nowhere else.
-/

namespace RouteMap

/-! ## Kinds of names -/

namespace Tag

/-- The beginning of the names that are for the documentation alone. -/
def Key.docs := "apifest.docs."

/-- The names that are for the documentation alone. -/
def Documents (name : String) : Prop := Key.docs.toList <+: name.toList

/-- The names that both views read. -/
def Shared (name : String) : Prop :=
  name = Key.external ∨ name = Key.internal ∨ name = Key.scope ∨
    Key.expression.toList <+: name.toList

instance : DecidablePred Documents := fun _ => inferInstanceAs (Decidable (_ <+: _))

instance : DecidablePred Shared := fun _ => inferInstanceAs (Decidable (_ ∨ _))

theorem documents_canonicalName {name : String} (h : Key.docs.toList <+: name.toList) :
    Documents (canonicalName name) :=
  prefix_canonicalName rfl (by decide) (by decide) h

theorem shared_canonicalName_expression (name : String) :
    Shared (canonicalName (Key.expression ++ name)) := by
  refine .inr (.inr (.inr (prefix_canonicalName rfl (by decide) (by decide) ?_)))
  rw [String.toList_append]
  exact List.prefix_append _ _

/-- No name is both shared and for the documentation alone. -/
theorem not_documents_of_shared {name : String} (h : Shared name) : ¬ Documents name := by
  rcases h with rfl | rfl | rfl | hexpression
  · decide
  · decide
  · decide
  · intro hdocs
    rcases List.prefix_or_prefix_of_prefix hexpression hdocs with h | h
    · exact absurd h (by decide)
    · exact absurd h (by decide)

/-- The names that the gateway reads beside those of the backend. -/
def Forwards (name : String) : Prop :=
  ¬ Documents name ∧ name ≠ Key.backendHost ∧ name ≠ Key.backendPort

/-- The names for the documentation apart from the position and the exceptions. -/
def Describes (name : String) : Prop :=
  Documents name ∧ name ≠ Key.order ∧ ¬ Key.exceptions.toList <+: name.toList

instance : DecidablePred Forwards := fun _ => inferInstanceAs (Decidable (_ ∧ _))

instance : DecidablePred Describes := fun _ => inferInstanceAs (Decidable (_ ∧ _))

theorem forwards_of_shared {name : String} (h : Shared name) : Forwards name := by
  refine ⟨not_documents_of_shared h, ?_⟩
  rcases h with rfl | rfl | rfl | hexpression
  · decide
  · decide
  · decide
  · constructor <;> rintro rfl <;> exact absurd hexpression (by decide)

end Tag

open Tag (Documents Shared Forwards Describes)
open Tag.Index (AgreeOn)

variable {s s' : Settings} {t t' : Tag.Index} {start : String}

/-! ## What both views read -/

namespace Settings

theorem pathVariables_congr (h : AgreeOn Shared t t') : pathVariables t = pathVariables t' := by
  have hinternal : t.get? Tag.Key.internal = t'.get? Tag.Key.internal := h _ (by decide)
  have hexpression : ∀ name, t.get? (Tag.Key.expression ++ name) =
      t'.get? (Tag.Key.expression ++ name) := fun name =>
    h _ (Tag.shared_canonicalName_expression name)
  simp only [pathVariables, PathTemplate.pathVariables, hinternal, hexpression]

/-! ## The view of the gateway -/

theorem backend_congr (h : AgreeOn (fun name => ¬ Documents name) t t') :
    s.backend t = s.backend t' := by
  rw [backend, backend, h Tag.Key.backendHost (by decide), h Tag.Key.backendPort (by decide)]

theorem authentication_congr (h : AgreeOn (fun name => ¬ Documents name) t t') :
    authentication t = authentication t' := by
  rw [authentication, authentication, h Tag.Key.authentication (by decide)]

/-- The backend apart, a routing depends on the names that the gateway reads beside it. -/
theorem routing_congr_of_backend (h : AgreeOn Forwards t t') (hbackend : s.backend t = s.backend t')
    (external : String) (a : Option Authentication) (annotations : List Annotation) :
    s.routing external a t annotations = s.routing external a t' annotations := by
  have hshared : AgreeOn Shared t t' := h.mono fun _ => Tag.forwards_of_shared
  have hinternal : t.get? Tag.Key.internal = t'.get? Tag.Key.internal := h _ (by decide)
  have hscope : t.get? Tag.Key.scope = t'.get? Tag.Key.scope := h _ (by decide)
  have haction : t.get? Tag.Key.action = t'.get? Tag.Key.action := h _ (by decide)
  have hfilter : t.get? Tag.Key.filter = t'.get? Tag.Key.filter := h _ (by decide)
  have hhidden : t.contains Tag.Key.hidden = t'.contains Tag.Key.hidden :=
    h.contains (by decide)
  simp only [routing, actionOf, filterOf, hinternal, hscope, haction, hfilter, hhidden, hbackend,
    pathVariables_congr hshared]

theorem routing_congr (h : AgreeOn (fun name => ¬ Documents name) t t') (external : String)
    (a : Option Authentication) (annotations : List Annotation) :
    s.routing external a t annotations = s.routing external a t' annotations :=
  routing_congr_of_backend (h.mono fun _ hname => hname.1) (backend_congr h) external a annotations

end Settings

/-! ## The lists of the guide -/

namespace Endpoint

theorem refinement_congr (h : AgreeOn Documents t t')
    (hstart : Tag.Key.docs.toList <+: start.toList) (name suffix : String) :
    refinement t start name suffix = refinement t' start name suffix := by
  refine h _ (Tag.documents_canonicalName ?_)
  simp only [String.toList_append, List.append_assoc]
  exact hstart.trans (List.prefix_append _ _)

theorem fieldOf_congr (h : AgreeOn Documents t t') (hstart : Tag.Key.docs.toList <+: start.toList)
    (name description : String) :
    fieldOf t start name description = fieldOf t' start name description := by
  simp only [fieldOf, refinement_congr h hstart]

/-- The groups of a list are found among the entries for the documentation. -/
theorem groups_eq (hstart : Tag.Key.docs.toList <+: start.toList) (t : Tag.Index) :
    groups t start =
      ((t.entriesOf Documents).filterMap fun (name, text) =>
        (Text.after? start.toList name.toList).map fun rest => (String.ofList rest, text)).filter
          fun (name, _) => isBareName name := by
  rw [groups, Tag.Index.below_eq (p := Documents) fun _ hname => hstart.trans hname]

/-- A relation of lists that survives a map carries over from the groups of two indexes to
the three lists, which are made of them alike. -/
theorem lists_related (h : AgreeOn Documents t t') {R : {α : Type} → List α → List α → Prop}
    (hmap : ∀ {α β : Type} (f : α → β) {l l' : List α}, R l l' → R (l.map f) (l'.map f))
    (hgroups : ∀ start : String, Tag.Key.docs.toList <+: start.toList →
      R (groups t start) (groups t' start)) :
    R (params t) (params t') ∧ R (results t) (results t') ∧ R (failures t) (failures t') := by
  have hparams : Tag.Key.docs.toList <+: Tag.Key.params.toList := by decide
  have hresults : Tag.Key.docs.toList <+: Tag.Key.results.toList := by decide
  have hexceptions : Tag.Key.docs.toList <+: Tag.Key.exceptions.toList := by decide
  refine ⟨?_, ?_, ?_⟩
  · simp only [params, fieldOf_congr h hparams, refinement_congr h hparams]
    exact hmap _ (hgroups _ hparams)
  · simp only [results, fieldOf_congr h hresults]
    exact hmap _ (hgroups _ hresults)
  · simp only [failures, codeText, refinement_congr h hexceptions]
    exact hmap _ (hgroups _ hexceptions)

/-- Two guides with related lists that are the same in everything else. -/
structure Guide.Related (R : {α : Type} → List α → List α → Prop) (g g' : Guide) : Prop where
  params : R g.params g'.params
  results : R g.results g'.results
  failures : R g.failures g'.failures
  rest : { g with params := g'.params, results := g'.results, failures := g'.failures } = g'

/-- Guides with the same lists are the same. -/
theorem Guide.Related.eq {g g' : Guide} (h : Guide.Related (· = ·) g g') : g = g' := by
  have hrest := h.rest
  rwa [← h.params, ← h.results, ← h.failures] at hrest

end Endpoint

namespace Settings

/-- The lists and the position apart, a guide depends on the version, the registry, the shared
tags and those that describe. -/
theorem guide_congr_of_order (hversion : s.version = s'.version)
    (hregistry : s.registry = s'.registry) (hshared : AgreeOn Shared t t')
    (hdescribes : AgreeOn Describes t t')
    (horder : Endpoint.orderOf (t.get? Tag.Key.order) = Endpoint.orderOf (t'.get? Tag.Key.order))
    (external : String) (annotations : List Annotation) :
    { s.guide external t annotations with
        params := Endpoint.params t'
        results := Endpoint.results t'
        failures := Endpoint.failures t' } = s'.guide external t' annotations := by
  have hscope : t.get? Tag.Key.scope = t'.get? Tag.Key.scope := hshared _ (by decide)
  have hhidden : t.contains Tag.Key.docsHidden = t'.contains Tag.Key.docsHidden :=
    hdescribes.contains (by decide)
  simp only [guide, externalPath, hversion, hregistry, hscope, hhidden, horder,
    pathVariables_congr hshared, hdescribes Tag.Key.group (by decide),
    hdescribes Tag.Key.summary (by decide), hdescribes Tag.Key.description (by decide),
    hdescribes Tag.Key.exampleRequest (by decide), hdescribes Tag.Key.exampleResult (by decide),
    hdescribes Tag.Key.paramsDescription (by decide),
    hdescribes Tag.Key.resultsDescription (by decide)]

theorem guide_congr (hversion : s.version = s'.version) (hregistry : s.registry = s'.registry)
    (hshared : AgreeOn Shared t t') (hdocs : AgreeOn Documents t t') (external : String)
    (annotations : List Annotation) :
    { s.guide external t annotations with
        params := Endpoint.params t'
        results := Endpoint.results t'
        failures := Endpoint.failures t' } = s'.guide external t' annotations :=
  guide_congr_of_order hversion hregistry hshared (hdocs.mono fun _ hname => hname.1)
    (by rw [hdocs Tag.Key.order (by decide)]) external annotations

/-! ## Two assemblies -/

/-- Tags for the documentation do not show in what the gateway gets, be it no route, an
error or a routing. -/
theorem map_routing_congr (h : AgreeOn (fun name => ¬ Documents name) t t')
    (annotations : List Annotation) :
    (s.assembleTags t annotations).map (Option.map Endpoint.routing) =
      (s.assembleTags t' annotations).map (Option.map Endpoint.routing) := by
  unfold assembleTags
  rw [h Tag.Key.external (by decide), authentication_congr h]
  cases t'.get? Tag.Key.external with
  | none => rfl
  | some external =>
    cases authentication t' with
    | error cause => rfl
    | ok a =>
      change Except.ok (some (s.routing external a t annotations)) = _
      rw [routing_congr h]
      rfl

/-- The guides of two assemblies that share what the documentation reads are related as
the groups of their tags are. -/
theorem guide_related {annotations : List Annotation} {e e' : Endpoint}
    (hversion : s.version = s'.version) (hregistry : s.registry = s'.registry)
    (hshared : AgreeOn Shared t t') (hdocs : AgreeOn Documents t t')
    (he : s.assembleTags t annotations = .ok (some e))
    (he' : s'.assembleTags t' annotations = .ok (some e'))
    {R : {α : Type} → List α → List α → Prop}
    (hmap : ∀ {α β : Type} (f : α → β) {l l' : List α}, R l l' → R (l.map f) (l'.map f))
    (hgroups : ∀ start : String, Tag.Key.docs.toList <+: start.toList →
      R (Endpoint.groups t start) (Endpoint.groups t' start)) :
    e.guide.Related R e'.guide := by
  obtain ⟨external, a, hexternal, -, rfl⟩ := (s.assembleTags_eq_some_iff ..).mp he
  obtain ⟨external', a', hexternal', -, rfl⟩ := (s'.assembleTags_eq_some_iff ..).mp he'
  obtain rfl : external = external' := by
    rw [hshared Tag.Key.external (by decide), hexternal', Option.some.injEq] at hexternal
    exact hexternal.symm
  obtain ⟨hparams, hresults, hfailures⟩ := Endpoint.lists_related hdocs hmap hgroups
  exact ⟨hparams, hresults, hfailures,
    guide_congr hversion hregistry hshared hdocs external annotations⟩

/-- **The two views do not interfere.** Tags for the documentation do not show in the
routing, nor in whether there is one. Guides of one version, one registry and the same
shared tags are equal if the tags for the documentation are the same in the same order, and
equal up to the order of their lists if these are the same in some order. -/
theorem views_do_not_interfere (s s' : Settings) (annotations : List Annotation)
    (t t' : Tag.Index) :
    (AgreeOn (fun name => ¬ Documents name) t t' →
      (s.assembleTags t annotations).map (Option.map Endpoint.routing) =
        (s.assembleTags t' annotations).map (Option.map Endpoint.routing)) ∧
    (s.version = s'.version → s.registry = s'.registry → AgreeOn Shared t t' →
      ∀ e e', s.assembleTags t annotations = .ok (some e) →
        s'.assembleTags t' annotations = .ok (some e') →
        (t.entriesOf Documents = t'.entriesOf Documents → e.guide = e'.guide) ∧
        ((t.entriesOf Documents).Perm (t'.entriesOf Documents) →
          e.guide.Related List.Perm e'.guide)) := by
  refine ⟨fun h => map_routing_congr h annotations, ?_⟩
  intro hversion hregistry hshared e e' he he'
  constructor
  · intro hsame
    have hdocs : AgreeOn Documents t t' := Tag.Index.agreeOn_of_perm (by rw [hsame])
    refine (guide_related hversion hregistry hshared hdocs he he' ?_ ?_).eq
    · intro α β f l l' hl
      rw [hl]
    · intro start hstart
      rw [Endpoint.groups_eq hstart, Endpoint.groups_eq hstart, hsame]
  · intro hperm
    refine guide_related hversion hregistry hshared (Tag.Index.agreeOn_of_perm hperm) he he' ?_ ?_
    · intro α β f l l' hl
      exact hl.map f
    · intro start hstart
      rw [Endpoint.groups_eq hstart, Endpoint.groups_eq hstart]
      exact (hperm.filterMap _).filter _

/-- The tags of an endpoint, for both views. -/
def bothViews : Tag.Index := .ofTags [⟨"@apifest.external", "/users"⟩, ⟨"apifest.scope", "read"⟩,
  ⟨"apifest.auth.type", "user"⟩, ⟨"apifest.docs.group", "People"⟩,
  ⟨"apifest.docs.params.id", "Whom"⟩, ⟨"apifest.docs.params.fields", "What"⟩]

/-- The same endpoint for the gateway, with another documentation. -/
def redescribed : Tag.Index := .ofTags [⟨"apifest.scope", "read"⟩,
  ⟨"apifest.docs.summary", "Users"⟩, ⟨"apifest.auth.type", "user"⟩,
  ⟨"apifest.external", "/users"⟩]

/-- The same endpoint for the reader, hidden from the gateway and with other callers. -/
def rerouted : Tag.Index := .ofTags [⟨"apifest.docs.group", "People"⟩, ⟨"apifest.hidden", ""⟩,
  ⟨"apifest.external", "/users"⟩, ⟨"apifest.docs.params.id", "Whom"⟩,
  ⟨"apifest.auth.type", "client-app"⟩, ⟨"apifest.docs.params.fields", "What"⟩,
  ⟨"apifest.scope", "read"⟩]

/-- The same endpoint for the reader, its parameters in another order. -/
def reordered : Tag.Index := .ofTags [⟨"apifest.docs.params.fields", "What"⟩,
  ⟨"apifest.external", "/users"⟩, ⟨"apifest.docs.group", "People"⟩,
  ⟨"apifest.docs.params.id", "Whom"⟩, ⟨"apifest.scope", "read"⟩]

/-- Another documentation leaves the routing as it is; another routing, under another
default action, leaves the guide; and another order shows in the parameters alone. -/
theorem views_do_not_interfere_users :
    let plain : Settings := { version := "v1" }
    let audited : Settings := { version := "v1", action := some "Audit" }
    (plain.assembleTags bothViews []).map (Option.map Endpoint.routing) =
        (plain.assembleTags redescribed []).map (Option.map Endpoint.routing) ∧
      (∃ e e', plain.assembleTags bothViews [] = .ok (some e) ∧
        audited.assembleTags rerouted [] = .ok (some e') ∧
        e.guide = e'.guide ∧ e.routing ≠ e'.routing) ∧
      ∃ e e', plain.assembleTags bothViews [] = .ok (some e) ∧
        audited.assembleTags reordered [] = .ok (some e') ∧
        e.guide.Related List.Perm e'.guide ∧ e.guide.params ≠ e'.guide.params := by
  intro plain audited
  have hgateway : AgreeOn (fun name => ¬ Documents name) bothViews redescribed :=
    Tag.Index.agreeOn_of_perm (by decide +kernel)
  have hrerouted : AgreeOn Shared bothViews rerouted :=
    Tag.Index.agreeOn_of_perm (by decide +kernel)
  have hreordered : AgreeOn Shared bothViews reordered :=
    Tag.Index.agreeOn_of_perm (by decide +kernel)
  have he : plain.assembleTags bothViews [] = .ok (some
      { routing := plain.routing "/users" (some .user) bothViews []
        guide := plain.guide "/users" bothViews [] }) :=
    (plain.assembleTags_eq_some_iff ..).mpr ⟨_, _, by decide +kernel, by decide +kernel, rfl⟩
  have he' : audited.assembleTags rerouted [] = .ok (some
      { routing := audited.routing "/users" (some .clientApp) rerouted []
        guide := audited.guide "/users" rerouted [] }) :=
    (audited.assembleTags_eq_some_iff ..).mpr
      ⟨_, _, by decide +kernel, by decide +kernel, rfl⟩
  have he'' : audited.assembleTags reordered [] = .ok (some
      { routing := audited.routing "/users" none reordered []
        guide := audited.guide "/users" reordered [] }) :=
    (audited.assembleTags_eq_some_iff ..).mpr
      ⟨_, _, by decide +kernel, by decide +kernel, rfl⟩
  refine ⟨(views_do_not_interfere plain plain [] bothViews redescribed).1 hgateway,
    ⟨_, _, he, he', ?_, ?_⟩, ⟨_, _, he, he'', ?_, ?_⟩⟩
  · exact ((views_do_not_interfere plain audited [] bothViews rerouted).2 rfl rfl hrerouted
      _ _ he he').1 (by decide +kernel)
  · intro heq
    have hhidden := congrArg Endpoint.Routing.hidden heq
    exact absurd hhidden (by decide +kernel)
  · exact ((views_do_not_interfere plain audited [] bothViews reordered).2 rfl rfl hreordered
      _ _ he he'').2 (by decide +kernel)
  · decide +kernel

end Settings

end RouteMap
