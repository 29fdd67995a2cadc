import Mathlib.Data.List.Perm.Subperm
import RouteMap.Proofs.Tag.Listing

/-!
# Looking up what is listed

An index brings names into their canonical form when it stores them and again when they are asked
for. A canonical form need not be canonical itself: behind the one marker that is removed there may
stand a blank or another marker (`covered_canonicalName_iff`), and a name that is listed with it in
front is looked up without it (`canonicalName_eq_self_iff_not_covered`). The listing makes the same
index again exactly if it has no such name (`ofTags_listed_eq_iff`).
-/

namespace RouteMap.Tag

open Text

/-- A name begins with a blank or with the marker. -/
def Covered (name : String) : Prop :=
  ∃ c ∈ name.toList.head?, c = marker ∨ isBlank c = true

/-- Behind the marker of a name stands a blank or another marker. -/
def Overmarked (name : String) : Prop :=
  ∃ c rest, trim name.toList = marker :: c :: rest ∧ (c = marker ∨ isBlank c = true)

/-! ## Canonical forms -/

/-- A canonical form is a name without blanks at its ends, or what follows the marker in one. -/
theorem canonicalName_cases (name : String) :
    (canonicalName name).toList = trim name.toList ∧ marker ∉ (trim name.toList).head? ∨
      trim name.toList = marker :: (canonicalName name).toList := by
  rw [canonicalName, String.toList_ofList]
  cases hafter : after? [marker] (trim name.toList) with
  | none =>
    refine .inl ⟨rfl, fun hmarker => ?_⟩
    obtain ⟨rest, hrest⟩ := List.head?_eq_some_iff.mp hmarker
    rw [hrest] at hafter
    cases hafter
  | some rest => exact .inr (eq_append_of_after? hafter)

/-- No blank stands at the end of a canonical form. -/
theorem isBlank_of_mem_getLast?_canonicalName {name : String} {c : Char}
    (h : c ∈ (canonicalName name).toList.getLast?) : isBlank c = false := by
  have htrim := (isBlank_ends_trim name.toList).2
  rcases canonicalName_cases name with ⟨hname, -⟩ | hname
  · exact htrim c (hname ▸ h)
  · refine htrim c ?_
    rw [hname, List.getLast?_cons, h]
    rfl

/-- **A canonical form is canonical itself unless it begins with a blank or the marker.** -/
theorem canonicalName_eq_self_iff_not_covered (name : String) :
    canonicalName (canonicalName name) = canonicalName name ↔ ¬ Covered (canonicalName name) := by
  have hend : ∀ c ∈ (canonicalName name).toList.getLast?, isBlank c = false :=
    fun _ => isBlank_of_mem_getLast?_canonicalName
  generalize canonicalName name = listed at hend ⊢
  constructor
  · rintro hself ⟨c, hc, hcover⟩
    rcases canonicalName_cases listed with ⟨hname, hmarker⟩ | hname
    · rw [hself] at hname
      rw [hname] at hc
      rcases hcover with rfl | hblank
      · exact hmarker hc
      · rw [(isBlank_ends_trim listed.toList).1 c hc] at hblank
        cases hblank
    · -- the name would be shorter than it is without blanks
      have hle := (trimEnd_isPrefix _).length_le.trans (trimStart_isSuffix listed.toList).length_le
      rw [hself] at hname
      rw [← trim, hname, List.length_cons] at hle
      omega
  · intro hcover
    cases hlisted : listed.toList with
    | nil =>
      rw [String.toList_eq_nil_iff.mp hlisted]
      decide
    | cons c cs =>
      have hc : ¬ (c = marker ∨ isBlank c = true) := fun h => hcover ⟨c, by rw [hlisted]; rfl, h⟩
      rw [not_or, Bool.not_eq_true] at hc
      refine canonicalName_eq_self hlisted (trim_eq_self_iff.mpr ⟨?_, hend⟩) hc.1
      rw [hlisted]
      simpa using hc.2

theorem covered_canonicalName_iff (name : String) :
    Covered (canonicalName name) ↔ Overmarked name := by
  rcases canonicalName_cases name with ⟨hname, hmarker⟩ | hname
  · constructor
    · rintro ⟨c, hc, hcover⟩
      rw [hname] at hc
      rcases hcover with rfl | hblank
      · exact absurd hc hmarker
      · rw [(isBlank_ends_trim name.toList).1 c hc] at hblank
        cases hblank
    · rintro ⟨c, rest, htrim, -⟩
      rw [htrim] at hmarker
      exact absurd rfl hmarker
  · constructor
    · rintro ⟨c, hc, hcover⟩
      obtain ⟨rest, hrest⟩ := List.head?_eq_some_iff.mp hc
      exact ⟨c, rest, by rw [hname, hrest], hcover⟩
    · rintro ⟨c, rest, htrim, hcover⟩
      rw [htrim] at hname
      exact ⟨c, by rw [← (List.cons.inj hname).2]; rfl, hcover⟩

namespace Index

/-! ## The listing of an index -/

/-- The tags that an index lists. -/
def listed (index : Index) : List Tag := index.entries.map fun e => ⟨e.1, e.2⟩

/-- **The listing makes the index again exactly if the names in it are canonical.** -/
theorem ofTags_listed_eq_iff (index : Index) :
    ofTags index.listed = index ↔
      ∀ name ∈ index.entries.map Prod.fst, canonicalName name = name := by
  have hnames : (ofTags index.listed).entries.map Prod.fst =
      ((index.entries.map Prod.fst).map canonicalName).eraseDups := by
    rw [names_entries_ofTags, listed, List.map_map, List.map_map]
    rfl
  constructor
  · intro h
    rw [h] at hnames
    -- the names have no room for one that is not its own canonical form
    have hsubset : index.entries.map Prod.fst ⊆
        (index.entries.map Prod.fst).map canonicalName := by
      intro name hname
      rw [hnames] at hname
      exact List.mem_eraseDups.mp hname
    have hperm : (index.entries.map Prod.fst).Perm
        ((index.entries.map Prod.fst).map canonicalName) :=
      (index.texts.distinct.subperm hsubset).perm_of_length_le (List.length_map _).le
    rw [Table.eraseDups_of_nodup (hperm.nodup_iff.mp index.texts.distinct)] at hnames
    have hid : (index.entries.map Prod.fst).map canonicalName =
        (index.entries.map Prod.fst).map id := by rw [List.map_id, ← hnames]
    exact List.map_inj_left.mp hid
  · intro h
    have hknown : index.listed.map known = index.entries := by
      rw [listed, List.map_map]
      refine (List.map_congr_left fun e he => ?_).trans (List.map_id _)
      exact Prod.ext (h e.1 (List.mem_map_of_mem he)) rfl
    show Index.mk (.ofListFirst (index.listed.map known)) = index
    rw [hknown]
    exact congrArg Index.mk (Table.ofListFirst_of_nodup index.texts.distinct)

/-- Every listed name is the canonical form of the name of a tag. -/
theorem forall_mem_names_ofTags_iff (p : String → Prop) (tags : List Tag) :
    (∀ name ∈ (ofTags tags).entries.map Prod.fst, p name) ↔
      ∀ t ∈ tags, p (canonicalName t.name) := by
  rw [names_entries_ofTags]
  simp only [List.mem_eraseDups, List.forall_mem_map]

/-- **What is listed is found, unless it begins with a blank or the marker.** A listed name that
begins with neither is found, and with its text. One that does is looked up as another name, and so
it is found only if that name is listed too, and with its text only if both have the same one. The
listing of an index makes this index again exactly if it has no such name: if no tag has a blank or
another marker behind the marker of its name. -/
theorem listed_looked_up (tags : List Tag) :
    (∀ name text, (name, text) ∈ (ofTags tags).entries →
      (¬ Covered name →
        (ofTags tags).get? name = some text ∧ (ofTags tags).contains name = true) ∧
      (Covered name → canonicalName name ≠ name ∧
        ((ofTags tags).get? name = some text ↔ (canonicalName name, text) ∈ (ofTags tags).entries) ∧
        ((ofTags tags).contains name = true ↔
          canonicalName name ∈ (ofTags tags).entries.map Prod.fst))) ∧
    (ofTags (ofTags tags).listed = ofTags tags ↔ ∀ t ∈ tags, ¬ Overmarked t.name) := by
  have hself : ∀ name ∈ (ofTags tags).entries.map Prod.fst,
      canonicalName name = name ↔ ¬ Covered name :=
    (forall_mem_names_ofTags_iff _ tags).mpr fun t _ =>
      canonicalName_eq_self_iff_not_covered t.name
  have hget : ∀ name text, (ofTags tags).get? name = some text ↔
      (canonicalName name, text) ∈ (ofTags tags).entries :=
    fun name text => Table.mem_entries_iff.symm
  have hcontains : ∀ name, (ofTags tags).contains name = true ↔
      canonicalName name ∈ (ofTags tags).entries.map Prod.fst :=
    fun name => List.contains_iff_mem
  constructor
  · intro name text hmem
    have hname := List.mem_map_of_mem (f := Prod.fst) hmem
    refine ⟨fun hcover => ?_, fun hcover => ?_⟩
    · rw [hget, hcontains, (hself name hname).mpr hcover]
      exact ⟨hmem, hname⟩
    · exact ⟨fun h => (hself name hname).mp h hcover, hget name text, hcontains name⟩
  · rw [ofTags_listed_eq_iff, forall_mem_names_ofTags_iff]
    refine forall₂_congr fun t _ => ?_
    rw [canonicalName_eq_self_iff_not_covered, covered_canonicalName_iff]

/-- A name with a blank behind its marker and one with two markers are listed and not found; between
blanks a name is listed without them and found. -/
theorem listed_looked_up_fails_behind_marker :
    let tags : List Tag := [⟨"@ scope", "read"⟩, ⟨"@@order", "1"⟩, ⟨" @group ", "Users"⟩]
    (ofTags tags).entries = [(" scope", "read"), ("@order", "1"), ("group", "Users")] ∧
      (ofTags tags).get? " scope" = none ∧ (ofTags tags).contains " scope" = false ∧
      (ofTags tags).get? "@order" = none ∧ (ofTags tags).contains "@order" = false ∧
      (ofTags tags).get? "group" = some "Users" ∧ ofTags (ofTags tags).listed ≠ ofTags tags := by
  intro tags
  have hentries : (ofTags tags).entries =
      [(" scope", "read"), ("@order", "1"), ("group", "Users")] := by decide +kernel
  obtain ⟨hlookup, hlisted⟩ := listed_looked_up tags
  have hgroup : ¬ Covered "group" := by
    rintro ⟨c, hc, hcover⟩
    obtain rfl : 'g' = c := by simpa using hc
    exact absurd hcover (by decide)
  refine ⟨hentries, by decide +kernel, by decide +kernel, by decide +kernel, by decide +kernel,
    ((hlookup "group" "Users" (by rw [hentries]; decide)).1 hgroup).1, ?_⟩
  rw [Ne, hlisted]
  intro hmarked
  exact hmarked ⟨"@@order", "1"⟩ (by decide) ⟨'@', ['o', 'r', 'd', 'e', 'r'], by decide, .inl rfl⟩

end Index

end RouteMap.Tag
