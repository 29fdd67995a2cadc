import RouteMap.Endpoint.Parameters
import RouteMap.Proofs.Tag.Listing

/-!
# Groups of tags

A family of groups has a beginning of names and some suffixes. A group of the family is a tag
whose name is the beginning with a bare word behind it, and refinements, whose names have a
point and a suffix behind the word. A bare word has no point, so a name tells which word and
which suffix it is for. Wherever the tags of groups stand among tags that are not for these
words, the groups are found in their order (`groups_of_holds`), each with its own refinements
(`refinement_of_holds`). Tags of other families can be left out (`groups_filter`,
`refinement_filter`).
-/

namespace RouteMap.Endpoint

open Text (isBlank after?)

variable {start word word' suffix suffix' : String}

/-! ## Bare words -/

theorem isWordChar_of_mem (h : isBareName word = true) {c : Char} (hc : c ∈ word.toList) :
    (c.isAlphanum || c = '_') = true := by
  unfold isBareName at h
  rw [Bool.and_eq_true, List.all_eq_true] at h
  exact h.2 c hc

/-- A bare word has no point. -/
theorem not_mem_of_isBareName (h : isBareName word = true) : '.' ∉ word.toList := by
  intro hmem
  exact absurd (isWordChar_of_mem h hmem) (by decide)

theorem toList_ne_nil_of_isBareName (h : isBareName word = true) : word.toList ≠ [] := by
  rintro hnil
  obtain rfl : word = "" := String.toList_inj.mp hnil
  exact absurd h (by decide)

theorem isBlank_of_isBareName (h : isBareName word = true) {c : Char} (hc : c ∈ word.toList) :
    isBlank c = false :=
  Text.isBlank_of_class (p := fun c => c.isAlphanum || c = '_') (by decide +kernel)
    (isWordChar_of_mem h hc)

theorem isBareName_refinement (word suffix : String) :
    isBareName (word ++ "." ++ suffix) = false := by
  rw [Bool.eq_false_iff]
  intro hbare
  apply not_mem_of_isBareName hbare
  simp

/-- The first point says where the word ends. -/
theorem eq_of_refinement_eq (hword : isBareName word = true) (hword' : isBareName word' = true)
    (h : word ++ "." ++ suffix = word' ++ "." ++ suffix') : word = word' ∧ suffix = suffix' := by
  have hcut : ∀ {word : String}, isBareName word = true → ∀ suffix : String,
      Text.cut (· == '.') (word ++ "." ++ suffix).toList = some (word.toList, suffix.toList) := by
    intro word hbare suffix
    rw [String.toList_append, String.toList_append, List.append_assoc]
    refine Text.cut_append (p := (· == '.')) ?_ (beq_self_eq_true '.') suffix.toList
    intro c hc
    rw [beq_eq_false_iff_ne]
    rintro rfl
    exact not_mem_of_isBareName hbare hc
  have heq := hcut hword suffix
  rw [h, hcut hword', Option.some.injEq, Prod.mk.injEq] at heq
  exact ⟨String.toList_inj.mp heq.1.symm, String.toList_inj.mp heq.2.symm⟩

/-! ## Families -/

/-- A family of groups: how the names of its tags begin, and the suffixes of refinements. -/
structure Family where
  start : String
  suffixes : List String
  /-- The beginning is part of the canonical name. -/
  first : ∃ c cs, start.toList = c :: cs ∧ isBlank c = false ∧ c ≠ Tag.marker
  bare : ∀ suffix ∈ suffixes, isBareName suffix = true := by decide
  distinct : suffixes.Nodup := by decide

/-- A group: a word with a text, and for each suffix the text of the refinement, if there is
one. -/
structure Group where
  word : String
  text : String
  refinements : List (String × Option String)

namespace Family

variable {f : Family} {gs : List Group} {tags : List Tag}

/-- The names of a family. -/
def Has (f : Family) (name : String) : Prop := f.start.toList <+: name.toList

instance (f : Family) : DecidablePred f.Has := fun _ => inferInstanceAs (Decidable (_ <+: _))

/-- The tag that introduces a group. -/
def head (f : Family) (g : Group) : String × String := (f.start ++ g.word, g.text)

/-- The tags of a group. -/
def entries (f : Family) (g : Group) : List (String × String) :=
  f.head g :: g.refinements.filterMap fun (suffix, text) =>
    text.map fun text => (f.start ++ g.word ++ "." ++ suffix, text)

/-- Groups of a family: with different bare words, and something said of each suffix. -/
structure Accepts (f : Family) (gs : List Group) : Prop where
  bare : ∀ g ∈ gs, isBareName g.word = true
  words : (gs.map Group.word).Nodup
  suffixes : ∀ g ∈ gs, g.refinements.map Prod.fst = f.suffixes

/-- A name that is for none of the groups: it is not of the family, or what stands behind the
beginning is neither a bare word nor the word of one of the groups with a point and a suffix. -/
def Foreign (f : Family) (gs : List Group) (name : String) : Prop :=
  ∀ rest, name = f.start ++ rest → isBareName rest = false ∧
    ∀ g ∈ gs, ∀ suffix ∈ f.suffixes, rest ≠ g.word ++ "." ++ suffix

theorem foreign_iff {name : String} :
    f.Foreign gs name ↔ ∀ rest ∈ after? f.start.toList name.toList,
      isBareName (String.ofList rest) = false ∧
        ∀ g ∈ gs, ∀ suffix ∈ f.suffixes, String.ofList rest ≠ g.word ++ "." ++ suffix := by
  constructor
  · intro h rest hrest
    apply h
    rw [← String.toList_inj, String.toList_append, String.toList_ofList]
    exact Text.eq_append_of_after? hrest
  · rintro h rest rfl
    have hrest := h rest.toList (by rw [String.toList_append, Text.after?_append]; rfl)
    rwa [String.ofList_toList] at hrest

instance (f : Family) (gs : List Group) : DecidablePred (f.Foreign gs) :=
  fun _ => decidable_of_iff _ foreign_iff.symm

/-- Tags that hold the tags of groups, each once, and else only foreign ones. The tags that
introduce the groups stand in the order of the groups, all others anywhere. -/
structure Holds (f : Family) (gs : List Group) (tags : List Tag) : Prop where
  perm : ∃ others, (tags.map Tag.known).Perm (gs.flatMap f.entries ++ others) ∧
    ∀ e ∈ others, f.Foreign gs e.1
  order : (gs.map f.head).Sublist (tags.map Tag.known)

theorem holds_of_known {known : List (String × String)} (others : List (String × String))
    (hknown : tags.map Tag.known = known)
    (hperm : known.Perm (gs.flatMap f.entries ++ others))
    (hforeign : ∀ e ∈ others, f.Foreign gs e.1) (horder : (gs.map f.head).Sublist known) :
    f.Holds gs tags := by
  subst hknown
  exact ⟨⟨others, hperm, hforeign⟩, horder⟩

/-- The names of refinements are canonical. -/
theorem canonicalName_refinement (f : Family) (word : String) (h : suffix ∈ f.suffixes) :
    Tag.canonicalName (f.start ++ word ++ "." ++ suffix) = f.start ++ word ++ "." ++ suffix := by
  obtain ⟨c, cs, hcons, hc, hmarker⟩ := f.first
  have hbare := f.bare suffix h
  have hname : (f.start ++ word ++ "." ++ suffix).toList =
      c :: (cs ++ word.toList ++ ".".toList ++ suffix.toList) := by
    simp only [String.toList_append, hcons, List.cons_append]
  refine Tag.canonicalName_eq_self hname (Text.trim_eq_self_iff.mpr ⟨?_, ?_⟩) hmarker
  · rw [hname]
    rintro d ⟨⟩
    exact hc
  · rw [String.toList_append, List.getLast?_append_of_ne_nil _ (toList_ne_nil_of_isBareName hbare)]
    intro d hd
    exact isBlank_of_isBareName hbare (List.mem_of_mem_getLast? hd)

/-! ## Refinements -/

theorem mem_entries_iff {g : Group} {name text : String} :
    (name, text) ∈ f.entries g ↔ (name, text) = f.head g ∨ ∃ suffix,
      (suffix, some text) ∈ g.refinements ∧ name = f.start ++ g.word ++ "." ++ suffix := by
  unfold entries
  rw [List.mem_cons, List.mem_filterMap]
  apply or_congr_right
  constructor
  · rintro ⟨⟨suffix, o⟩, hmem, ho⟩
    obtain ⟨t, rfl, heq⟩ := Option.map_eq_some_iff.mp ho
    obtain ⟨rfl, rfl⟩ := Prod.mk.inj heq
    exact ⟨suffix, hmem, rfl⟩
  · rintro ⟨suffix, hmem, rfl⟩
    exact ⟨(suffix, some text), hmem, rfl⟩

theorem start_cancel {rest rest' : String} (h : f.start ++ rest = f.start ++ rest') :
    rest = rest' :=
  (String.append_right_inj _).mp h

/-- The tags for a word and a suffix are those of the group of the word. -/
theorem mem_iff_of_holds (haccepts : f.Accepts gs) (hholds : f.Holds gs tags) {g : Group}
    (hg : g ∈ gs) (hsuffix : suffix ∈ f.suffixes) {text : String} :
    (f.start ++ g.word ++ "." ++ suffix, text) ∈ tags.map Tag.known ↔
      (suffix, some text) ∈ g.refinements := by
  obtain ⟨others, hperm, hforeign⟩ := hholds.perm
  rw [hperm.mem_iff, List.mem_append, List.mem_flatMap]
  have hassoc : ∀ word suffix : String,
      f.start ++ word ++ "." ++ suffix = f.start ++ (word ++ "." ++ suffix) := by
    intro word suffix
    simp only [String.append_assoc]
  constructor
  · rintro (⟨g', hg', hmem⟩ | hmem)
    · rcases mem_entries_iff.mp hmem with hhead | ⟨suffix', hmem', hname⟩
      · -- the word of another group would have a point
        have hname := (Prod.mk.inj hhead).1
        rw [hassoc] at hname
        have hbare := haccepts.bare g' hg'
        rw [← start_cancel hname, isBareName_refinement] at hbare
        cases hbare
      · rw [hassoc, hassoc] at hname
        obtain ⟨hword, rfl⟩ := eq_of_refinement_eq (haccepts.bare g hg) (haccepts.bare g' hg')
          (start_cancel hname)
        rwa [List.inj_on_of_nodup_map haccepts.words hg hg' hword]
    · exact absurd rfl ((hforeign _ hmem _ (hassoc _ _)).2 g hg suffix hsuffix)
  · intro hmem
    exact .inl ⟨g, hg, mem_entries_iff.mpr (.inr ⟨suffix, hmem, rfl⟩)⟩

end Family

/-- A search finds what is the only value of a name. -/
theorem lookup_eq_of_forall_mem_iff {l : List (String × String)} {q : String} {o : Option String}
    (h : ∀ v, (q, v) ∈ l ↔ o = some v) : l.lookup q = o := by
  cases hlookup : l.lookup q with
  | some v =>
    obtain ⟨before, after, rfl, -⟩ := List.lookup_eq_some_iff.mp hlookup
    exact ((h v).mp (by simp)).symm
  | none =>
    rw [eq_comm, Option.eq_none_iff_forall_ne_some]
    intro v hv
    have hne := List.lookup_eq_none_iff.mp hlookup _ ((h v).mpr hv)
    simp at hne

/-- **Each group has its own refinements.** -/
theorem refinement_of_holds {f : Family} {gs : List Group} {tags : List Tag}
    (haccepts : f.Accepts gs) (hholds : f.Holds gs tags) {g : Group} (hg : g ∈ gs)
    {text : Option String} (h : (suffix, text) ∈ g.refinements) :
    refinement (.ofTags tags) f.start g.word suffix = text := by
  have hmem : suffix ∈ f.suffixes := by
    rw [← haccepts.suffixes g hg]
    exact List.mem_map_of_mem h
  have hdistinct : (g.refinements.map Prod.fst).Nodup := by
    rw [haccepts.suffixes g hg]
    exact f.distinct
  unfold refinement
  rw [Tag.Index.get?_ofTags, f.canonicalName_refinement g.word hmem]
  apply lookup_eq_of_forall_mem_iff
  intro v
  rw [Family.mem_iff_of_holds haccepts hholds hg hmem]
  constructor
  · intro hv
    exact congrArg Prod.snd (List.inj_on_of_nodup_map hdistinct h hv rfl)
  · rintro rfl
    exact h

/-! ## Groups -/

/-- Whether a tag of the name introduces a group. -/
def introduces (start name : String) : Bool :=
  (after? start.toList name.toList).any fun rest => isBareName (String.ofList rest)

theorem introduces_iff {name : String} :
    introduces start name = true ↔ ∃ word, isBareName word = true ∧ name = start ++ word := by
  unfold introduces
  rw [Option.any_eq_true]
  constructor
  · rintro ⟨rest, hafter, hbare⟩
    refine ⟨String.ofList rest, hbare, ?_⟩
    rw [← String.toList_inj, String.toList_append, String.toList_ofList]
    exact Text.eq_append_of_after? hafter
  · rintro ⟨word, hbare, rfl⟩
    exact ⟨word.toList, by rw [String.toList_append, Text.after?_append],
      by rwa [String.ofList_toList]⟩

/-- The groups are read off the tags that introduce them. -/
theorem groups_eq_filter (t : Tag.Index) (start : String) :
    groups t start = (t.entries.filter fun e => introduces start e.1).filterMap fun (name, text) =>
      (after? start.toList name.toList).map fun rest => (String.ofList rest, text) := by
  unfold groups Tag.Index.below introduces
  rw [List.filter_filterMap, List.filterMap_filter]
  apply List.filterMap_congr
  rintro ⟨name, text⟩ -
  cases hafter : after? start.toList name.toList with
  | none => simp [hafter]
  | some rest => simp [Option.filter_some, hafter]

namespace Family

variable {f : Family} {gs : List Group} {tags : List Tag}

/-- Of the tags of groups only those that introduce them introduce any. -/
theorem filter_entries (hbare : ∀ g ∈ gs, isBareName g.word = true) :
    (gs.flatMap f.entries).filter (fun e => introduces f.start e.1) = gs.map f.head := by
  rw [List.filter_flatMap, List.map_eq_flatMap]
  apply List.flatMap_congr
  intro g hg
  have hhead : introduces f.start (f.head g).1 = true :=
    introduces_iff.mpr ⟨g.word, hbare g hg, rfl⟩
  rw [entries, List.filter_cons_of_pos (by exact hhead), List.filter_eq_nil_iff.mpr]
  rintro ⟨name, text⟩ hmem hintroduces
  obtain ⟨⟨suffix, o⟩, -, ho⟩ := List.mem_filterMap.mp hmem
  obtain ⟨t, -, heq⟩ := Option.map_eq_some_iff.mp ho
  obtain ⟨word, hword, hname⟩ := introduces_iff.mp hintroduces
  rw [← (Prod.mk.inj heq).1] at hname
  simp only [String.append_assoc] at hname
  rw [← start_cancel hname, ← String.append_assoc, isBareName_refinement] at hword
  cases hword

theorem filter_known_of_holds (haccepts : f.Accepts gs) (hholds : f.Holds gs tags) :
    (tags.map Tag.known).filter (fun e => introduces f.start e.1) = gs.map f.head := by
  obtain ⟨others, hperm, hforeign⟩ := hholds.perm
  have hothers : others.filter (fun e => introduces f.start e.1) = [] := by
    rw [List.filter_eq_nil_iff]
    intro e he hintroduces
    obtain ⟨word, hword, hname⟩ := introduces_iff.mp hintroduces
    rw [(hforeign e he word hname).1] at hword
    cases hword
  have hfilter := hperm.filter fun e => introduces f.start e.1
  rw [List.filter_append, filter_entries haccepts.bare, hothers, List.append_nil] at hfilter
  -- the order comes from that of the tags that introduce the groups
  have hsub := hholds.order.filter fun e => introduces f.start e.1
  have hheads : (gs.map f.head).filter (fun e => introduces f.start e.1) = gs.map f.head := by
    rw [List.filter_eq_self]
    intro e he
    obtain ⟨g, hg, rfl⟩ := List.mem_map.mp he
    exact introduces_iff.mpr ⟨g.word, haccepts.bare g hg, rfl⟩
  rw [hheads] at hsub
  exact (hsub.eq_of_length hfilter.length_eq.symm).symm

end Family

/-- **The groups are found in their order.** -/
theorem groups_of_holds {f : Family} {gs : List Group} {tags : List Tag}
    (haccepts : f.Accepts gs) (hholds : f.Holds gs tags) :
    groups (.ofTags tags) f.start = gs.map fun g => (g.word, g.text) := by
  have hnodup : ((gs.map f.head).map Prod.fst).Nodup := by
    have hinj : Function.Injective fun word => f.start ++ word :=
      fun _ _ => Family.start_cancel
    have hwords := haccepts.words.map hinj
    rw [List.map_map] at hwords ⊢
    exact hwords
  have hentries : (Tag.Index.ofTags tags).entries.filter (fun e => introduces f.start e.1) =
      gs.map f.head := by
    show ((Table.ofListFirst (tags.map Tag.known)).filter fun name _ =>
      introduces f.start name).entries = _
    rw [Table.filter_ofListFirst, Family.filter_known_of_holds haccepts hholds,
      Table.ofListFirst_of_nodup hnodup]
  rw [groups_eq_filter, hentries, List.filterMap_map, ← List.filterMap_eq_map]
  apply List.filterMap_congr
  intro g _
  simp [Family.head, Text.after?_append]

/-! ## Other tags -/

/-- Groups whose tags are kept are kept, whatever goes. -/
theorem groups_filter {keeps : String → String → Bool}
    (h : ∀ name text, isBareName name = true → keeps (start ++ name) text = true)
    (t : Tag.Index) : groups (t.filter keeps) start = groups t start := by
  rw [groups_eq_filter, groups_eq_filter]
  congr 1
  show (t.entries.filter fun e => keeps e.1 e.2).filter _ = _
  rw [List.filter_filter]
  apply List.filter_congr
  rintro ⟨name, text⟩ -
  by_cases hintroduces : introduces start name = true
  · obtain ⟨word, hword, rfl⟩ := introduces_iff.mp hintroduces
    simp [h word text hword]
  · simp [hintroduces]

theorem refinement_filter {f : Family} {keeps : String → String → Bool}
    (h : ∀ name text, f.Has name → keeps name text = true) (t : Tag.Index) (word : String)
    (hsuffix : suffix ∈ f.suffixes) :
    refinement (t.filter keeps) f.start word suffix = refinement t f.start word suffix := by
  unfold refinement
  rw [Tag.Index.get?_filter, f.canonicalName_refinement word hsuffix]
  cases t.get? (f.start ++ word ++ "." ++ suffix) with
  | none => rfl
  | some text =>
    have hhas : f.Has (f.start ++ word ++ "." ++ suffix) := by
      unfold Family.Has
      simp only [String.toList_append, List.append_assoc]
      exact List.prefix_append _ _
    rw [Option.filter_some, if_pos (h _ text hhas)]

end RouteMap.Endpoint
