import Mathlib.Data.List.Forall2
import RouteMap.Endpoint.Assembly
import RouteMap.Proofs.Tag.Listing

/-!
# Batches of methods

Which methods are endpoints, which of these are rejected, and what the assembly of a
list of methods comes to. A method leaves the assembly in one of three ways
(`assemble_of_not_isEndpoint`, `assemble_of_isRejected`, `assemble_of_isEndpoint`),
and a list of methods is the sum of its methods: it fails exactly if one of them is
rejected, with one report for each of these, and else gives one endpoint for each
method that is one.
-/

namespace RouteMap

namespace Method

/-- Whether a method is an endpoint: it has a tag for its external path. -/
def isEndpoint (m : Method) : Bool := m.index.contains Tag.Key.external

/-- Whether a method is an endpoint whose authentication has a text other than the two
that there are. -/
def isRejected (m : Method) : Bool :=
  m.isEndpoint && (m.index.get? Tag.Key.authentication).any fun value =>
    value != "user" && value != "client-app"

theorem isEndpoint_eq_isSome (m : Method) :
    m.isEndpoint = (m.index.get? Tag.Key.external).isSome :=
  m.index.texts.contains_eq_isSome_get? _

/-- Any tag of the method for an external path will do, in its comment or beside it. -/
theorem isEndpoint_iff (m : Method) :
    m.isEndpoint = true ↔ ∃ t ∈ m.allTags, Tag.canonicalName t.name = "apifest.external" :=
  Tag.Index.contains_ofTags_iff m.allTags Tag.Key.external

/-- Of the tags for the authentication only the first one counts. -/
theorem isRejected_iff (m : Method) :
    m.isRejected = true ↔
      (∃ t ∈ m.allTags, Tag.canonicalName t.name = "apifest.external") ∧
        ∃ t, Tag.first? m.allTags "apifest.auth.type" = some t ∧
          t.text ≠ "user" ∧ t.text ≠ "client-app" := by
  have hname : Tag.canonicalName Tag.Key.authentication = "apifest.auth.type" := by decide
  have hvalue : m.index.get? Tag.Key.authentication =
      (Tag.first? m.allTags "apifest.auth.type").map Tag.text := by
    rw [index, Tag.Index.get?_ofTags, Tag.lookup_known, hname]
  rw [← isEndpoint_iff, isRejected, Bool.and_eq_true, hvalue]
  simp [Option.any_map, Option.any_eq_true]

end Method

/-- An error reports a method: it is called by the text of its external path, and the
cause is the text of its authentication. -/
structure EndpointError.Reports (e : EndpointError) (m : Method) : Prop where
  endpoint : m.index.get? Tag.Key.external = some e.endpoint
  tag : e.cause.tag = "apifest.auth.type"
  value : m.index.get? Tag.Key.authentication = some e.cause.value

theorem EndpointError.Reports.unique {e f : EndpointError} {m : Method}
    (he : e.Reports m) (hf : f.Reports m) : e = f := by
  obtain ⟨endpoint, tag, value⟩ := e
  obtain ⟨endpoint', tag', value'⟩ := f
  obtain ⟨he₁, he₂, he₃⟩ := he
  obtain ⟨hf₁, hf₂, hf₃⟩ := hf
  simp_all

theorem Authentication.ofName?_eq_none_iff (value : String) :
    Authentication.ofName? value = none ↔ value ≠ "user" ∧ value ≠ "client-app" := by
  unfold Authentication.ofName? Authentication.all
  rw [List.find?_eq_none]
  simp [Authentication.name, ne_comm]

namespace Settings

/-! ## One method -/

/-- The authentication is refused exactly for a text that is no name of a way. -/
theorem authentication_eq_error_iff (tags : Tag.Index) (cause : UnsupportedValue) :
    authentication tags = .error cause ↔
      cause.tag = Tag.Key.authentication ∧
        tags.get? Tag.Key.authentication = some cause.value ∧
        cause.value ≠ "user" ∧ cause.value ≠ "client-app" := by
  obtain ⟨tag, value⟩ := cause
  unfold authentication
  cases htext : tags.get? Tag.Key.authentication with
  | none => simp
  | some text =>
    rcases hname : Authentication.ofName? text with _ | a
    · simp only [hname]
      rw [Authentication.ofName?_eq_none_iff] at hname
      simp only [Except.error.injEq, UnsupportedValue.mk.injEq, Option.some.injEq]
      constructor
      · rintro ⟨rfl, rfl⟩
        exact ⟨rfl, rfl, hname⟩
      · rintro ⟨rfl, rfl, _⟩
        exact ⟨rfl, rfl⟩
    · simp only [hname, reduceCtorEq, Option.some.injEq, false_iff, not_and]
      rintro - rfl hu hc
      rw [(Authentication.ofName?_eq_none_iff text).mpr ⟨hu, hc⟩] at hname
      exact absurd hname (by simp)

theorem assemble_of_not_isEndpoint (s : Settings) {m : Method} (h : m.isEndpoint = false) :
    s.assemble m = .ok none := by
  rw [m.isEndpoint_eq_isSome, Option.isSome_eq_false_iff, Option.isNone_iff_eq_none] at h
  unfold assemble assembleTags
  rw [h]

/-- Tags are assembled exactly if there is an external path and the authentication is
understood, and then the two views are those of the tags and annotations. -/
theorem assembleTags_eq_some_iff (s : Settings) (tags : Tag.Index)
    (annotations : List Annotation) (e : Endpoint) :
    s.assembleTags tags annotations = .ok (some e) ↔
      ∃ external a, tags.get? Tag.Key.external = some external ∧
        authentication tags = .ok a ∧
        e = { routing := s.routing external a tags annotations
              guide := s.guide external tags annotations } := by
  unfold assembleTags
  cases tags.get? Tag.Key.external with
  | none => simp
  | some external =>
    cases authentication tags with
    | error cause => simp
    | ok a => simp [eq_comm]

theorem assemble_eq_some_iff (s : Settings) (m : Method) (e : Endpoint) :
    s.assemble m = .ok (some e) ↔
      ∃ external a, m.index.get? Tag.Key.external = some external ∧
        authentication m.index = .ok a ∧
        e = { routing := s.routing external a m.index m.annotations
              guide := s.guide external m.index m.annotations } :=
  s.assembleTags_eq_some_iff m.index m.annotations e

theorem assemble_of_isRejected (s : Settings) {m : Method} (h : m.isRejected = true) :
    ∃ cause, s.assemble m = .error cause ∧ EndpointError.Reports ⟨label m, cause⟩ m := by
  unfold Method.isRejected at h
  rw [Bool.and_eq_true, m.isEndpoint_eq_isSome, Option.isSome_iff_exists,
    Option.any_eq_true_iff_get] at h
  obtain ⟨⟨external, hexternal⟩, hsome, hvalue⟩ := h
  obtain ⟨value, htext⟩ := Option.isSome_iff_exists.mp hsome
  simp only [htext, Option.get_some, Bool.and_eq_true, bne_iff_ne] at hvalue
  have herror : authentication m.index = .error ⟨Tag.Key.authentication, value⟩ :=
    (authentication_eq_error_iff _ _).mpr ⟨rfl, htext, hvalue⟩
  refine ⟨⟨Tag.Key.authentication, value⟩, ?_, ?_, rfl, htext⟩
  · unfold assemble assembleTags
    rw [hexternal, herror]
  · -- the label is the text that made the method an endpoint, never its name
    unfold label
    rw [hexternal]
    rfl

theorem assemble_of_isEndpoint (s : Settings) {m : Method} (he : m.isEndpoint = true)
    (hr : m.isRejected = false) : ∃ e, s.assemble m = .ok (some e) := by
  rw [m.isEndpoint_eq_isSome, Option.isSome_iff_exists] at he
  obtain ⟨external, hexternal⟩ := he
  cases ha : authentication m.index with
  | ok a =>
    refine ⟨_, (s.assemble_eq_some_iff m _).mpr ⟨external, a, hexternal, ha, rfl⟩⟩
  | error cause =>
    obtain ⟨-, htext, hu, hc⟩ := (authentication_eq_error_iff _ _).mp ha
    have hreject : m.isRejected = true := by
      simp [Method.isRejected, m.isEndpoint_eq_isSome, hexternal, htext, hu, hc]
    rw [hr] at hreject
    exact absurd hreject (by simp)

/-! ## Warnings -/

/-- The warnings about an endpoint that is assembled name its path. -/
theorem warnings_of_assemble {s : Settings} {m : Method} {e : Endpoint}
    (h : s.assemble m = .ok (some e)) :
    s.warnings m.index =
      ignoredPort m.index e.routing.path ++ Endpoint.ignoredCodes m.index e.routing.path := by
  obtain ⟨external, a, hexternal, ha, rfl⟩ := (s.assemble_eq_some_iff m e).mp h
  unfold warnings
  rw [hexternal, ha]
  rfl

/-- There are no warnings about a method whose endpoint is not assembled. -/
theorem warnings_of_not_assembled {s : Settings} {m : Method}
    (h : ∀ e, s.assemble m ≠ .ok (some e)) : s.warnings m.index = [] := by
  unfold warnings
  split
  · next external a hexternal ha =>
    exact absurd ((s.assemble_eq_some_iff m _).mpr ⟨external, a, hexternal, ha, rfl⟩) (h _)
  · rfl

/-! ## All methods -/

/-- The failures of a list are the reports of its rejected methods, in their order. -/
theorem failures_report (s : Settings) (ms : List Method) :
    List.Forall₂ EndpointError.Reports (s.failures ms) (ms.filter Method.isRejected) := by
  unfold failures
  induction ms with
  | nil => exact .nil
  | cons m ms ih =>
    cases hr : m.isRejected with
    | true =>
      obtain ⟨cause, hcause, hreport⟩ := s.assemble_of_isRejected hr
      rw [List.filter_cons_of_pos hr, List.filterMap_cons, hcause]
      exact .cons hreport ih
    | false =>
      rw [List.filter_cons_of_neg (by simp [hr]), List.filterMap_cons]
      cases he : m.isEndpoint with
      | true =>
        obtain ⟨e, hassemble⟩ := s.assemble_of_isEndpoint he hr
        rw [hassemble]
        exact ih
      | false =>
        rw [s.assemble_of_not_isEndpoint he]
        exact ih

/-- Without rejected methods every endpoint of a list is assembled, in their order. -/
theorem endpoints_assemble (s : Settings) {ms : List Method}
    (h : ∀ m ∈ ms, m.isRejected = false) :
    List.Forall₂ (fun e m => s.assemble m = .ok (some e)) (s.endpoints ms)
      (ms.filter Method.isEndpoint) := by
  unfold endpoints
  induction ms with
  | nil => exact .nil
  | cons m ms ih =>
    have hrest := ih fun m' hm' => h m' (List.mem_cons_of_mem _ hm')
    cases he : m.isEndpoint with
    | true =>
      obtain ⟨e, hassemble⟩ := s.assemble_of_isEndpoint he (h m List.mem_cons_self)
      rw [List.filter_cons_of_pos he, List.filterMap_cons, hassemble]
      exact .cons hassemble hrest
    | false =>
      rw [List.filter_cons_of_neg (by simp [he]), List.filterMap_cons,
        s.assemble_of_not_isEndpoint he]
      exact hrest

theorem failures_eq_nil_iff (s : Settings) (ms : List Method) :
    s.failures ms = [] ↔ ∀ m ∈ ms, m.isRejected = false := by
  have hlength := (s.failures_report ms).length_eq
  rw [← List.length_eq_zero_iff, hlength, List.length_eq_zero_iff, List.filter_eq_nil_iff]
  simp

/-- Without rejected methods, and only then, a list is assembled and sorted. -/
theorem assembleAll_eq_ok_iff (s : Settings) (ms : List Method) (es : List Endpoint) :
    s.assembleAll ms = .ok es ↔
      (∀ m ∈ ms, m.isRejected = false) ∧ es = Endpoint.sorted (s.endpoints ms) := by
  rw [← s.failures_eq_nil_iff]
  unfold assembleAll
  split
  · next hnil => simp [hnil, eq_comm]
  · next hne =>
    constructor
    · intro h
      exact absurd h (by simp)
    · rintro ⟨hnil, -⟩
      exact absurd hnil hne

/-- With a rejected method, and only then, a list fails with all failures. -/
theorem assembleAll_eq_error_iff (s : Settings) (ms : List Method) (batch : BatchError) :
    s.assembleAll ms = .error batch ↔
      (∃ m ∈ ms, m.isRejected = true) ∧ batch = ⟨s.failures ms⟩ := by
  have hsome : (∃ m ∈ ms, m.isRejected = true) ↔ s.failures ms ≠ [] := by
    rw [Ne, s.failures_eq_nil_iff]
    simp
  rw [hsome]
  unfold assembleAll
  split
  · next hnil => simp [hnil]
  · next hne =>
    rw [Except.error.injEq, eq_comm]
    exact ⟨fun h => ⟨hne, h⟩, fun h => h.2⟩

/-- **All or nothing.** The assembly of a list fails exactly if one of its methods is
rejected, and then with the reports of all rejected methods in their order and nothing
else. Without rejected methods it succeeds, with one endpoint for each method that is
one. -/
theorem assembleAll_all_or_nothing (s : Settings) (ms : List Method) :
    (∀ batch, s.assembleAll ms = .error batch ↔
      (∃ m ∈ ms, m.isRejected = true) ∧
        List.Forall₂ EndpointError.Reports batch.errors (ms.filter Method.isRejected)) ∧
    ((∀ m ∈ ms, m.isRejected = false) ↔
      ∃ es found, s.assembleAll ms = .ok es ∧ es.Perm found ∧
        List.Forall₂ (fun e m => s.assemble m = .ok (some e)) found
          (ms.filter Method.isEndpoint)) := by
  refine ⟨?_, ?_, ?_⟩
  · intro batch
    rw [s.assembleAll_eq_error_iff]
    apply and_congr_right
    rintro -
    constructor
    · rintro rfl
      exact s.failures_report ms
    · intro hreports
      -- a list of methods has one list of reports only
      have hunique := List.left_unique_forall₂' (fun _ _ _ he hf => he.unique hf)
        hreports (s.failures_report ms)
      rw [← hunique]
  · intro haccept
    exact ⟨_, _, (s.assembleAll_eq_ok_iff ms _).mpr ⟨haccept, rfl⟩, List.mergeSort_perm _ _,
      s.endpoints_assemble haccept⟩
  · rintro ⟨es, found, hok, -, -⟩
    exact ((s.assembleAll_eq_ok_iff ms es).mp hok).1

end Settings

end RouteMap
