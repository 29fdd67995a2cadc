import RouteMap.Proofs.Table
import RouteMap.Proofs.Text.Trim
import RouteMap.Tag.Index

/-!
# What an index says of a kind of names

The tags of an index divide into kinds by their canonical names. Two indexes agree on a
kind (`Tag.Index.AgreeOn`) when they give every name of it the same text, and they do if
their entries of that kind are the same up to order (`agreeOn_of_perm`). A beginning that
is canonical itself is kept by every name that has it (`prefix_canonicalName`), so a kind
that is told by such a beginning is the same for the names that are asked for and for those
of the entries.
-/

namespace RouteMap.Tag

open Text

/-- **A canonical beginning is kept.** -/
theorem prefix_canonicalName {start name : String} {c : Char} {cs : List Char}
    (hcons : start.toList = c :: cs) (htrim : trim start.toList = start.toList)
    (hmarker : c ≠ marker) (h : start.toList <+: name.toList) :
    start.toList <+: (canonicalName name).toList := by
  obtain ⟨rest, hrest⟩ := h
  have hends := trim_eq_self_iff.mp htrim
  have hc : isBlank c = false := hends.1 c (by simp [hcons])
  have hend : trimEnd start.toList = start.toList := trimEnd_eq_self_iff.mpr hends.2
  have hname : trim name.toList = start.toList ++ trimEnd rest := by
    rw [trim, ← hrest, ← trimEnd_append hend, hcons, List.cons_append, trimStart_cons hc]
  have hunmarked : after? [marker] (start.toList ++ trimEnd rest) = none := by
    rw [hcons, List.cons_append, after?, if_neg (Ne.symm hmarker)]
  rw [canonicalName, hname, hunmarked, Option.getD_none, String.toList_ofList]
  exact List.prefix_append _ _

/-- A name with neither blanks at its ends nor the marker in front is canonical. -/
theorem canonicalName_eq_self {name : String} {c : Char} {cs : List Char}
    (hcons : name.toList = c :: cs) (htrim : trim name.toList = name.toList)
    (hmarker : c ≠ marker) : canonicalName name = name := by
  have hunmarked : after? [marker] (c :: cs) = none := by
    rw [after?, if_neg (Ne.symm hmarker)]
  rw [canonicalName, htrim, hcons, hunmarked, Option.getD_none, ← hcons, String.ofList_toList]

namespace Index

variable {p : String → Prop} {t t' : Index}

/-- Two indexes give the names of a kind the same texts. -/
def AgreeOn (p : String → Prop) (t t' : Index) : Prop :=
  ∀ name, p (canonicalName name) → t.get? name = t'.get? name

theorem AgreeOn.contains (h : AgreeOn p t t') {name : String} (hname : p (canonicalName name)) :
    t.contains name = t'.contains name := by
  have hget := h name hname
  unfold get? at hget
  rw [Index.contains, Index.contains, Table.contains_eq_isSome_get?, hget,
    ← Table.contains_eq_isSome_get?]

theorem AgreeOn.mono {q : String → Prop} (h : AgreeOn p t t') (hpq : ∀ name, q name → p name) :
    AgreeOn q t t' :=
  fun name hname => h name (hpq _ hname)

/-- The tags that satisfy a condition. -/
def filter (keeps : String → String → Bool) (t : Index) : Index := ⟨t.texts.filter keeps⟩

theorem get?_filter (keeps : String → String → Bool) (t : Index) (name : String) :
    (t.filter keeps).get? name = (t.get? name).filter (keeps (canonicalName name)) :=
  t.texts.get?_filter keeps _

/-- An index agrees with its filtered one on the names that are kept whatever their texts. -/
theorem agreeOn_filter {keeps : String → String → Bool}
    (h : ∀ name text, p name → keeps name text = true) (t : Index) :
    AgreeOn p (t.filter keeps) t := by
  intro name hname
  rw [get?_filter]
  cases t.get? name with
  | none => rfl
  | some text => rw [Option.filter_some, if_pos (h _ text hname)]

/-- The entries of a kind. -/
def entriesOf (p : String → Prop) [DecidablePred p] (t : Index) : List (String × String) :=
  t.entries.filter fun e => decide (p e.1)

variable [DecidablePred p]

/-- Entries that are the same up to order say the same. -/
theorem agreeOn_of_perm (h : (t.entriesOf p).Perm (t'.entriesOf p)) : AgreeOn p t t' := by
  intro name hname
  have hkind := Table.lookup_filter (α := String) (fun name => decide (p name))
    (decide_eq_true hname)
  have hdistinct : ((t.entriesOf p).map Prod.fst).Nodup :=
    t.texts.distinct.sublist (List.filter_sublist.map Prod.fst)
  have hlookup := Table.lookup_perm h hdistinct (canonicalName name)
  unfold entriesOf at hlookup
  rwa [hkind, hkind] at hlookup

/-- The tags below a beginning are found among the entries of a kind that has all names
with it. -/
theorem below_eq {start : String} (h : ∀ name, start.toList <+: name.toList → p name) (t : Index) :
    t.below start = (t.entriesOf p).filterMap fun (name, text) =>
      (after? start.toList name.toList).map fun rest => (String.ofList rest, text) := by
  rw [below, entriesOf, List.filterMap_filter]
  refine List.filterMap_congr fun e _ => ?_
  obtain ⟨name, text⟩ := e
  cases hafter : after? start.toList name.toList with
  | none => simp [hafter]
  | some rest =>
    have hp : p name := h name ⟨rest, (eq_append_of_after? hafter).symm⟩
    simp [hafter, hp]

end Index

end RouteMap.Tag
