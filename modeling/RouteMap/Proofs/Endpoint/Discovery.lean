import RouteMap.Document.Documentation
import RouteMap.Document.Mapping
import RouteMap.Proofs.Endpoint.Ranking

/-!
# The order of discovery

Where the order in which methods are found shows in their endpoints, and where it does not.
Methods without a position have the last one, which is the greatest there is: they stand
behind all methods with a smaller position, in the order in which they were found
(`unordered_last`). A method that asks for the greatest position is not told apart from
them. Methods found in another order give the same endpoints with the same positions, and
the very same list if no two positions are equal (`assembleAll_perm`).
-/

namespace RouteMap

/-- The position in the text of the tag for it: none if there is no tag or no integer. -/
def Method.position? (m : Method) : Option Int32 :=
  (m.index.get? Tag.Key.order).bind fun text => Text.int32? (Text.trimmed text)

theorem Method.order_eq (m : Method) : m.order = m.position?.getD Int32.maxValue := rfl

namespace Settings

/-! ## Methods without a position -/

/-- Before a method without a position stand those with a position that is not the greatest,
and of the others those that were found earlier. -/
theorem before_unordered_iff {p q : Method × Nat} (hq : q.1.position? = none) :
    Before Method.order p q ↔ p.1.order ≠ Int32.maxValue ∨ p.2 < q.2 := by
  have hlast : q.1.order = Int32.maxValue := by rw [q.1.order_eq, hq, Option.getD_none]
  have hle : p.1.order ≤ Int32.maxValue := Int32.le_maxValue _
  unfold Before
  rw [hlast, Int32.lt_iff_le_and_ne]
  constructor
  · rintro (⟨-, hne⟩ | ⟨-, hplace⟩)
    · exact .inl hne
    · exact .inr hplace
  · intro h
    by_cases heq : p.1.order = Int32.maxValue
    · exact .inr ⟨heq, h.resolve_left (absurd heq)⟩
    · exact .inl ⟨hle, heq⟩

/-- **Methods without a position stand last.** The endpoints of a list of methods are those
of its ranking, in which a method with a position stands in front of one without exactly if
the position is not the greatest one or the method was found earlier, and methods without a
position stand as they were found. -/
theorem unordered_last {s : Settings} {ms : List Method} {es : List Endpoint}
    (h : s.assembleAll ms = .ok es) :
    ∃ ranked : List (Method × Nat),
      ranked.Perm (ms.zipIdx.filter fun p => p.1.isEndpoint) ∧
      List.Forall₂ (fun e p => s.assemble p.1 = .ok (some e)) es ranked ∧
      (∀ p ∈ ranked, ∀ q ∈ ranked, ∀ k, p.1.position? = some k → q.1.position? = none →
        ([p, q].Sublist ranked ↔ k ≠ Int32.maxValue ∨ p.2 < q.2)) ∧
      ∀ p ∈ ranked, ∀ q ∈ ranked, p.1.position? = none → q.1.position? = none →
        ([p, q].Sublist ranked ↔ p.2 < q.2) := by
  refine ⟨ranking ms, ranking_perm ms, ?_, ?_, ?_⟩
  · rw [assembleAll_eq_map_ranking h, List.forall₂_map_left_iff, List.forall₂_same]
    intro p hp
    obtain ⟨hmem, hendpoint⟩ := mem_of_mem_ranking hp
    exact assemble_eq_endpointOf h hmem hendpoint
  · intro p hp q hq k hposition hunordered
    rw [pair_sublist_iff_before (ranking_ordered ms) hp hq, before_unordered_iff hunordered,
      p.1.order_eq, hposition, Option.getD_some]
  · intro p hp q hq hunordered hunordered'
    rw [pair_sublist_iff_before (ranking_ordered ms) hp hq, before_unordered_iff hunordered',
      p.1.order_eq, hunordered, Option.getD_none]
    simp

/-- A method without a position. -/
def unorderedMethod : Method :=
  { name := "list", tags := [⟨"apifest.external", "/list"⟩] }

/-- A method that asks for the greatest position. -/
def greatestMethod : Method :=
  { name := "show",
    tags := [⟨"apifest.external", "/show"⟩, ⟨"apifest.docs.order", " 2147483647 "⟩] }

/-- A method that asks for a small position. -/
def smallMethod : Method :=
  { name := "find", tags := [⟨"apifest.external", "/find"⟩, ⟨"apifest.docs.order", "-7"⟩] }

/-- The method with the small position stands in front of the one without a position, although
it was found later. The method with the greatest position does not: it stands behind it. -/
theorem unordered_last_fails_for_greatest :
    let s : Settings := { version := "v1" }
    let ms := [unorderedMethod, greatestMethod, smallMethod]
    greatestMethod.position? = some 2147483647 ∧ unorderedMethod.position? = none ∧
      ∃ es ranked, s.assembleAll ms = .ok es ∧
        List.Forall₂ (fun e p => s.assemble p.1 = .ok (some e)) es ranked ∧
        [(smallMethod, 2), (unorderedMethod, 0)].Sublist ranked ∧
        [(unorderedMethod, 0), (greatestMethod, 1)].Sublist ranked := by
  intro s ms
  have hunordered : unorderedMethod.position? = none := by decide +kernel
  have hgreatest : greatestMethod.position? = some 2147483647 := by decide +kernel
  have hsmall : smallMethod.position? = some (-7) := by decide +kernel
  have hassembled : s.assembleAll ms = .ok (Endpoint.sorted (s.endpoints ms)) :=
    (assembleAll_eq_ok_iff _ _ _).mpr ⟨by decide +kernel, rfl⟩
  obtain ⟨ranked, hperm, hes, hordered, -⟩ := unordered_last hassembled
  have hmem : ∀ p ∈ ms.zipIdx, p.1.isEndpoint = true → p ∈ ranked := fun p hp he =>
    hperm.mem_iff.mpr (List.mem_filter.mpr ⟨hp, he⟩)
  have hfirst : (unorderedMethod, 0) ∈ ranked := hmem _ (.head _) (by decide +kernel)
  have hsecond : (greatestMethod, 1) ∈ ranked := hmem _ (.tail _ (.head _)) (by decide +kernel)
  have hthird : (smallMethod, 2) ∈ ranked :=
    hmem _ (.tail _ (.tail _ (.head _))) (by decide +kernel)
  refine ⟨hgreatest, hunordered, _, ranked, hassembled, hes, ?_, ?_⟩
  · exact (hordered _ hthird _ hfirst _ hsmall hunordered).mpr (.inl (by decide))
  · rcases pair_sublist_or hfirst hsecond (by simp) with hfront | hback
    · exact hfront
    · -- to stand in front it would need a smaller position or an earlier place
      rw [hordered _ hsecond _ hfirst _ hgreatest hunordered] at hback
      exact absurd hback (by decide)

/-! ## Methods in another order -/

/-- **The order of discovery shows in ties only.** A list of methods and the same methods in
another order are both assembled or both not. If they are not, their failures are the same up
to order. If they are, so are their endpoints, the positions of these are the same one by one,
and with distinct positions the endpoints are the same list and give the same documents. -/
theorem assembleAll_perm (s : Settings) {ms ms' : List Method} (hperm : ms.Perm ms') :
    (∃ es es', s.assembleAll ms = .ok es ∧ s.assembleAll ms' = .ok es' ∧ es.Perm es' ∧
      es.map Endpoint.order = es'.map Endpoint.order ∧
      ((es.map Endpoint.order).Nodup → es = es' ∧
        (∀ heading, Mapping.render heading es = Mapping.render heading es') ∧
        ∀ version, Documentation.render version es = Documentation.render version es')) ∨
    ∃ batch batch', s.assembleAll ms = .error batch ∧ s.assembleAll ms' = .error batch' ∧
      batch.errors.Perm batch'.errors := by
  have hendpoints : (s.endpoints ms).Perm (s.endpoints ms') := hperm.filterMap _
  have hfailures : (s.failures ms).Perm (s.failures ms') := hperm.filterMap _
  by_cases haccept : ∀ m ∈ ms, m.isRejected = false
  · have haccept' : ∀ m ∈ ms', m.isRejected = false := fun m hm =>
      haccept m (hperm.mem_iff.mpr hm)
    refine .inl ⟨_, _, (s.assembleAll_eq_ok_iff ms _).mpr ⟨haccept, rfl⟩,
      (s.assembleAll_eq_ok_iff ms' _).mpr ⟨haccept', rfl⟩,
      mergeSort_perm_mergeSort hendpoints _, map_key_mergeSort_perm Endpoint.order hendpoints, ?_⟩
    intro hdistinct
    have hinput : ((s.endpoints ms).map Endpoint.order).Nodup :=
      ((List.mergeSort_perm _ _).map Endpoint.order).nodup_iff.mp hdistinct
    have hsame : Endpoint.sorted (s.endpoints ms) = Endpoint.sorted (s.endpoints ms') :=
      mergeSort_key_perm hendpoints hinput
    rw [hsame]
    exact ⟨rfl, fun _ => rfl, fun _ => rfl⟩
  · have hreject : ∃ m ∈ ms, m.isRejected = true := by
      by_contra hnone
      exact haccept fun m hm => Bool.eq_false_iff.mpr fun hm' => hnone ⟨m, hm, hm'⟩
    obtain ⟨m, hm, hrejected⟩ := hreject
    exact .inr ⟨_, _,
      (s.assembleAll_eq_error_iff ms _).mpr ⟨⟨m, hm, hrejected⟩, rfl⟩,
      (s.assembleAll_eq_error_iff ms' _).mpr ⟨⟨m, hperm.mem_iff.mp hm, hrejected⟩, rfl⟩,
      hfailures⟩

/-- A method whose authentication is refused. -/
def refusedMethod (value : String) : Method :=
  { name := "find", tags := [⟨"apifest.external", "/find"⟩, ⟨"apifest.auth.type", value⟩] }

/-- Two methods with distinct positions give one list of endpoints in either order, and two
refused methods fail in either order. -/
theorem assembleAll_perm_two_methods :
    let s : Settings := { version := "v1" }
    (∃ es, s.assembleAll [unorderedMethod, smallMethod] = .ok es ∧
      s.assembleAll [smallMethod, unorderedMethod] = .ok es) ∧
    ∃ batch batch', s.assembleAll [refusedMethod "root", refusedMethod "User"] = .error batch ∧
      s.assembleAll [refusedMethod "User", refusedMethod "root"] = .error batch' ∧
      batch.errors.Perm batch'.errors := by
  intro s
  constructor
  · have hassembled : s.assembleAll [unorderedMethod, smallMethod] = .ok _ :=
      (assembleAll_eq_ok_iff _ _ _).mpr ⟨by decide +kernel, rfl⟩
    have hdistinct : ((s.endpoints [unorderedMethod, smallMethod]).map Endpoint.order).Nodup := by
      decide +kernel
    rcases s.assembleAll_perm (List.Perm.swap smallMethod unorderedMethod []) with
      ⟨es, es', hes, hes', -, -, hsame⟩ | ⟨_, _, herror, -, -⟩
    · obtain rfl : _ = es := Except.ok.inj (hassembled.symm.trans hes)
      obtain ⟨heq, -, -⟩ := hsame
        (((List.mergeSort_perm _ _).map Endpoint.order).nodup_iff.mpr hdistinct)
      exact ⟨_, hes, heq ▸ hes'⟩
    · cases hassembled.symm.trans herror
  · have hrefused : s.assembleAll [refusedMethod "root", refusedMethod "User"] = .error _ :=
      (assembleAll_eq_error_iff _ _ _).mpr ⟨⟨_, List.mem_cons_self, by decide +kernel⟩, rfl⟩
    rcases s.assembleAll_perm (List.Perm.swap (refusedMethod "User") (refusedMethod "root") []) with
      ⟨_, _, hok, -⟩ | hbatches
    · cases hrefused.symm.trans hok
    · exact hbatches

end Settings

end RouteMap
