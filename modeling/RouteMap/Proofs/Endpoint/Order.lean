import Mathlib.Data.List.Nodup
import RouteMap.Endpoint.Basic

/-!
# Sorting by a key

Endpoints are sorted by a key of 32 bits. The sort is stable in the strong sense that
the elements of one key are a list that the sort does not touch
(`filter_key_mergeSort`). For elements that carry their places this fixes the result:
two of them stand in the order of their keys, and for one key in the order of their
places (`pairwise_before_mergeSort`, `pair_sublist_iff_before`). The order of the list that
is sorted shows only among elements of one key (`map_key_mergeSort_perm`,
`mergeSort_key_perm`).
-/

namespace RouteMap

variable {α : Type}

/-- The comparison of a sort by a key. -/
def keyLe (key : α → Int32) (a b : α) : Bool := decide (key a ≤ key b)

/-- One element with its place stands before another: its key is smaller, or the keys
are equal and its place comes first. -/
def Before (key : α → Int32) (p q : α × Nat) : Prop :=
  key p.1 < key q.1 ∨ key p.1 = key q.1 ∧ p.2 < q.2

theorem keyLe_trans (key : α → Int32) (a b c : α) (hab : keyLe key a b = true)
    (hbc : keyLe key b c = true) : keyLe key a c = true := by
  rw [keyLe, decide_eq_true_eq] at *
  exact Int32.le_trans hab hbc

theorem keyLe_total (key : α → Int32) (a b : α) : (keyLe key a b || keyLe key b a) = true := by
  rw [keyLe, keyLe, Bool.or_eq_true, decide_eq_true_eq, decide_eq_true_eq]
  exact Int32.le_total _ _

theorem pairwise_key_mergeSort (key : α → Int32) (l : List α) :
    (l.mergeSort (keyLe key)).Pairwise fun a b => key a ≤ key b := by
  have hsorted := List.pairwise_mergeSort (keyLe_trans key) (keyLe_total key) l
  exact hsorted.imp fun h => by rwa [keyLe, decide_eq_true_eq] at h

/-- **Stability.** The elements of one key keep their order. -/
theorem filter_key_mergeSort (key : α → Int32) (l : List α) (k : Int32) :
    (l.mergeSort (keyLe key)).filter (fun a => key a == k) =
      l.filter fun a => key a == k := by
  have hequal : (l.filter fun a => key a == k).Pairwise fun a b => keyLe key a b = true := by
    rw [List.pairwise_iff_forall_sublist]
    intro a b hab
    have ha := (List.mem_filter.mp (hab.subset List.mem_cons_self)).2
    have hb := (List.mem_filter.mp (hab.subset (List.mem_cons_of_mem _ List.mem_cons_self))).2
    rw [beq_iff_eq] at ha hb
    rw [keyLe, decide_eq_true_eq, ha, hb]
    exact Int32.le_refl k
  -- as a sorted sublist of `l` it is a sublist of the sorted list, and it is as long as
  -- the elements of the key there
  have hsub := List.sublist_mergeSort (keyLe_trans key) (keyLe_total key) hequal
    List.filter_sublist
  have hinside := hsub.filter fun a => key a == k
  rw [List.filter_filter] at hinside
  simp only [Bool.and_self] at hinside
  have hlength := ((List.mergeSort_perm l (keyLe key)).filter fun a => key a == k).length_eq
  exact (hinside.eq_of_length hlength.symm).symm

theorem Before.asymm {key : α → Int32} {p q : α × Nat} (h : Before key p q) :
    ¬ Before key q p := by
  intro h'
  rcases h with hlt | ⟨heq, hplace⟩ <;> rcases h' with hlt' | ⟨heq', hplace'⟩
  · exact Int32.lt_irrefl (Int32.lt_trans hlt hlt')
  · exact Int32.lt_irrefl (heq' ▸ hlt)
  · exact Int32.lt_irrefl (heq ▸ hlt')
  · omega

/-- Of two elements of a list one stands in front of the other. -/
theorem pair_sublist_or {l : List α} {a b : α} (ha : a ∈ l) (hb : b ∈ l) (hne : a ≠ b) :
    [a, b].Sublist l ∨ [b, a].Sublist l := by
  obtain ⟨front, back, rfl⟩ := List.append_of_mem ha
  rcases List.mem_append.mp hb with hfront | hback
  · exact .inr ((List.singleton_sublist.mpr hfront).append
      (List.singleton_sublist.mpr List.mem_cons_self))
  · have hback : b ∈ back := (List.mem_cons.mp hback).resolve_left (Ne.symm hne)
    exact .inl (((List.singleton_sublist.mpr hback).cons_cons a).trans
      (List.sublist_append_right front _))

/-- In a list that is in the order of keys and places one element stands in front of another
exactly if its key and place say so. -/
theorem pair_sublist_iff_before {key : α → Int32} {l : List (α × Nat)}
    (h : l.Pairwise (Before key)) {p q : α × Nat} (hp : p ∈ l) (hq : q ∈ l) :
    [p, q].Sublist l ↔ Before key p q := by
  constructor
  · intro hpq
    exact List.pairwise_iff_forall_sublist.mp h hpq
  · intro hpq
    have hne : p ≠ q := by
      rintro rfl
      exact hpq.asymm hpq
    rcases pair_sublist_or hp hq hne with hfront | hback
    · exact hfront
    · exact absurd (List.pairwise_iff_forall_sublist.mp h hback) hpq.asymm

/-- Elements that carry their places are sorted by key and place. -/
theorem pairwise_before_mergeSort (key : α → Int32) {l : List (α × Nat)}
    (h : l.Pairwise fun p q => p.2 < q.2) :
    (l.mergeSort (keyLe fun p => key p.1)).Pairwise (Before key) := by
  rw [List.pairwise_iff_forall_sublist]
  intro p q hpq
  have hle := List.pairwise_iff_forall_sublist.mp (pairwise_key_mergeSort _ l) hpq
  rcases Int32.lt_or_eq_of_le hle with hlt | heq
  · exact .inl hlt
  · -- both are among the elements of one key, which stand as they stood in `l`
    have hboth := hpq.filter fun r => key r.1 == key p.1
    rw [filter_key_mergeSort] at hboth
    simp only [heq, beq_self_eq_true, List.filter_cons_of_pos, List.filter_nil] at hboth
    exact .inr ⟨heq, List.pairwise_iff_forall_sublist.mp h (hboth.trans List.filter_sublist)⟩

theorem mergeSort_perm_mergeSort {l l' : List α} (h : l.Perm l') (le : α → α → Bool) :
    (l.mergeSort le).Perm (l'.mergeSort le) :=
  ((List.mergeSort_perm l le).trans h).trans (List.mergeSort_perm l' le).symm

/-- The keys of a sorted list do not depend on the order of the list. -/
theorem map_key_mergeSort_perm (key : α → Int32) {l l' : List α} (h : l.Perm l') :
    (l.mergeSort (keyLe key)).map key = (l'.mergeSort (keyLe key)).map key := by
  have hsorted : ∀ l : List α, ((l.mergeSort (keyLe key)).map key).Pairwise (· ≤ ·) := fun l =>
    List.pairwise_map.mpr (pairwise_key_mergeSort key l)
  exact List.Perm.eq_of_pairwise (fun _ _ _ _ => Int32.le_antisymm) (hsorted l) (hsorted l')
    ((mergeSort_perm_mergeSort h _).map key)

/-- With distinct keys the sorted list does not depend on the order of the list. -/
theorem mergeSort_key_perm {key : α → Int32} {l l' : List α} (h : l.Perm l')
    (hdistinct : (l.map key).Nodup) :
    l.mergeSort (keyLe key) = l'.mergeSort (keyLe key) := by
  refine List.Perm.eq_of_pairwise ?_ (pairwise_key_mergeSort key l) (pairwise_key_mergeSort key l')
    (mergeSort_perm_mergeSort h _)
  intro a b ha hb hab hba
  exact List.inj_on_of_nodup_map hdistinct (List.mem_mergeSort.mp ha)
    (h.mem_iff.mpr (List.mem_mergeSort.mp hb)) (Int32.le_antisymm hab hba)

/-- A map that keeps the key may be applied before or after the sort. -/
theorem map_mergeSort_key {β : Type} {key : α → Int32} {key' : β → Int32} {f : α → β}
    {l : List α} (h : ∀ a ∈ l, key' (f a) = key a) :
    (l.mergeSort (keyLe key)).map f = (l.map f).mergeSort (keyLe key') := by
  apply List.map_mergeSort
  intro a ha b hb
  rw [keyLe, keyLe, h a ha, h b hb]

theorem Endpoint.sorted_eq_mergeSort (es : List Endpoint) :
    Endpoint.sorted es = es.mergeSort (keyLe Endpoint.order) := rfl

end RouteMap
