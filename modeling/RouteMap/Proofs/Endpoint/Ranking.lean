import RouteMap.Proofs.Endpoint.Order
import RouteMap.Proofs.Endpoint.Views

/-!
# The ranking of methods

The *ranking* of a list of methods has those that are endpoints, each with its place among
all methods, by the position they ask for and then by place. The assembly of the list is
its ranking, one endpoint for each method of it (`assembleAll_eq_map_ranking`).
-/

namespace RouteMap

namespace Settings

/-- The endpoint of a method that is assembled. -/
def endpointOf (s : Settings) (m : Method) : Endpoint :=
  ((s.assemble m).toOption.join).getD default

theorem endpointOf_eq {s : Settings} {m : Method} {e : Endpoint}
    (h : s.assemble m = .ok (some e)) : s.endpointOf m = e := by
  rw [endpointOf, h]
  rfl

/-- The methods that are endpoints, with their places, in the order of the documents. -/
def ranking (ms : List Method) : List (Method × Nat) :=
  (ms.zipIdx.filter fun p => p.1.isEndpoint).mergeSort (keyLe fun p => p.1.order)

theorem ranking_perm (ms : List Method) :
    (ranking ms).Perm (ms.zipIdx.filter fun p => p.1.isEndpoint) :=
  List.mergeSort_perm _ _

theorem pairwise_place_zipIdx (ms : List Method) (k : Nat) :
    (ms.zipIdx k).Pairwise fun p q => p.2 < q.2 := by
  induction ms generalizing k with
  | nil => exact .nil
  | cons m ms ih =>
    rw [List.zipIdx_cons, List.pairwise_cons]
    constructor
    · intro q hq
      exact List.le_snd_of_mem_zipIdx hq
    · exact ih (k + 1)

theorem ranking_ordered (ms : List Method) :
    (ranking ms).Pairwise (Before Method.order) :=
  pairwise_before_mergeSort Method.order ((pairwise_place_zipIdx ms 0).filter _)

theorem mem_of_mem_ranking {ms : List Method} {p : Method × Nat} (h : p ∈ ranking ms) :
    p.1 ∈ ms ∧ p.1.isEndpoint = true := by
  obtain ⟨hp, hendpoint⟩ := List.mem_filter.mp ((ranking_perm ms).mem_iff.mp h)
  exact ⟨List.fst_mem_of_mem_zipIdx hp, hendpoint⟩

theorem map_fst_filter_zipIdx (ms : List Method) :
    (ms.zipIdx.filter fun p => p.1.isEndpoint).map Prod.fst = ms.filter Method.isEndpoint := by
  have hfilter := List.filter_map (f := Prod.fst) (p := Method.isEndpoint) (l := ms.zipIdx)
  rw [List.zipIdx_map_fst] at hfilter
  exact hfilter.symm

theorem assemble_eq_endpointOf {s : Settings} {ms : List Method} {es : List Endpoint}
    (h : s.assembleAll ms = .ok es) {m : Method} (hm : m ∈ ms) (he : m.isEndpoint = true) :
    s.assemble m = .ok (some (s.endpointOf m)) := by
  obtain ⟨haccept, -⟩ := (s.assembleAll_eq_ok_iff ms es).mp h
  obtain ⟨e, hassemble⟩ := s.assemble_of_isEndpoint he (haccept m hm)
  rw [hassemble, endpointOf_eq hassemble]

/-- The assembly of a list is its ranking, one endpoint for each method of it. -/
theorem assembleAll_eq_map_ranking {s : Settings} {ms : List Method} {es : List Endpoint}
    (h : s.assembleAll ms = .ok es) : es = (ranking ms).map fun p => s.endpointOf p.1 := by
  obtain ⟨haccept, rfl⟩ := (s.assembleAll_eq_ok_iff ms es).mp h
  have hmap : s.endpoints ms = (ms.filter Method.isEndpoint).map s.endpointOf := by
    have heach := (s.endpoints_assemble haccept).imp fun e m hem => (endpointOf_eq hem).symm
    rwa [← List.forall₂_map_right_iff, List.forall₂_eq_eq_eq] at heach
  have hplaced : s.endpoints ms =
      (ms.zipIdx.filter fun p => p.1.isEndpoint).map fun p => s.endpointOf p.1 := by
    rw [hmap, ← map_fst_filter_zipIdx, List.map_map]
    rfl
  rw [hplaced, Endpoint.sorted_eq_mergeSort, ranking]
  symm
  -- the endpoints are sorted by what their methods ask for
  apply map_mergeSort_key
  intro p hp
  obtain ⟨hp, hendpoint⟩ := List.mem_filter.mp hp
  exact order_of_assemble (assemble_eq_endpointOf h (List.fst_mem_of_mem_zipIdx hp) hendpoint)

end Settings

end RouteMap
