import RouteMap.Proofs.Endpoint.Batch

/-!
# The two views of an assembled endpoint

What the views of an endpoint are, read off the tags of its method: path, position,
visibility and backend; and where the two views say the same.
-/

namespace RouteMap

namespace Method

/-- The position that a method asks for in the documents. -/
def order (m : Method) : Int32 := Endpoint.orderOf (m.index.get? Tag.Key.order)

/-- Whether a method is hidden from the mapping, whatever the text of the tag. -/
def isHidden (m : Method) : Bool := m.index.contains Tag.Key.hidden

/-- Whether a method is hidden from the documentation, whatever the text of the tag. -/
def isDocsHidden (m : Method) : Bool := m.index.contains Tag.Key.docsHidden

/-- The backend that a method has of its own: host and port of its tags, if both are
there and the port is a number. -/
def ownBackend? (m : Method) : Option (String × UInt16) := do
  let host ← m.index.get? Tag.Key.backendHost
  let port ← m.index.get? Tag.Key.backendPort
  return (host, ← Text.port? (Text.trimmed port))

end Method

namespace Settings

variable {s : Settings} {m : Method} {e : Endpoint}

/-- Both views have the path of the tag, with the version in front. -/
theorem path_of_assemble (h : s.assemble m = .ok (some e)) :
    ∃ external, m.index.get? Tag.Key.external = some external ∧
      e.routing.path = "/" ++ s.version ++ Text.trimmed external ∧
      e.guide.path = e.routing.path := by
  obtain ⟨external, a, hexternal, -, rfl⟩ := (s.assemble_eq_some_iff m e).mp h
  exact ⟨external, hexternal, rfl, rfl⟩

theorem order_of_assemble (h : s.assemble m = .ok (some e)) : e.order = m.order := by
  obtain ⟨external, a, -, -, rfl⟩ := (s.assemble_eq_some_iff m e).mp h
  rfl

theorem hidden_of_assemble (h : s.assemble m = .ok (some e)) :
    e.routing.hidden = m.isHidden ∧ e.guide.hidden = m.isDocsHidden := by
  obtain ⟨external, a, -, -, rfl⟩ := (s.assemble_eq_some_iff m e).mp h
  exact ⟨rfl, rfl⟩

/-- The backend of an endpoint is its own or that of the run, and never made of both. -/
theorem backend_of_assemble (h : s.assemble m = .ok (some e)) {host : String} {port : UInt16}
    (hhost : s.backendHost = some host) (hport : s.backendPort = some port) :
    e.routing.backendHost = some (m.ownBackend?.getD (host, port)).1 ∧
      e.routing.backendPort = some (m.ownBackend?.getD (host, port)).2 := by
  obtain ⟨external, a, -, -, rfl⟩ := (s.assemble_eq_some_iff m e).mp h
  simp only [routing, backend, Method.ownBackend?, hhost, hport]
  -- the own backend counts only if both tags are there and the port is a number
  cases m.index.get? Tag.Key.backendHost with
  | none => exact ⟨rfl, rfl⟩
  | some ownHost =>
    cases m.index.get? Tag.Key.backendPort with
    | none => exact ⟨rfl, rfl⟩
    | some text =>
      cases hnumber : Text.port? (Text.trimmed text) with
      | none => simp [hnumber]
      | some ownPort => simp [hnumber]

/-- The views agree in what both of them say. -/
theorem views_agree (h : s.assemble m = .ok (some e)) :
    e.guide.verb = e.routing.verb ∧ e.guide.scope = e.routing.scope ∧
      e.guide.pathVariables = e.routing.pathVariables ∧
      e.guide.properties = e.routing.properties := by
  obtain ⟨external, a, -, -, rfl⟩ := (s.assemble_eq_some_iff m e).mp h
  exact ⟨rfl, rfl, rfl, rfl⟩

theorem exists_method_of_mem {ms : List Method} {es : List Endpoint}
    (h : s.assembleAll ms = .ok es) (he : e ∈ es) :
    ∃ m ∈ ms, s.assemble m = .ok (some e) := by
  obtain ⟨-, rfl⟩ := (s.assembleAll_eq_ok_iff ms es).mp h
  obtain ⟨m, hm, hassemble⟩ := List.mem_filterMap.mp (List.mem_mergeSort.mp he)
  refine ⟨m, hm, ?_⟩
  cases hresult : s.assemble m with
  | error cause =>
    rw [hresult] at hassemble
    exact absurd hassemble (by simp [Except.toOption])
  | ok found =>
    rw [hresult] at hassemble
    simp only [Except.toOption, Option.join_some] at hassemble
    rw [hassemble]

end Settings

end RouteMap
