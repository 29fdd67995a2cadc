import RouteMap.Method
import RouteMap.Proofs.Table.Update
import RouteMap.Proofs.Tag.Index
import RouteMap.Proofs.Text.Lines

/-!
# What an index lists

Tags are known under the canonical forms of their names. Of the tags that are known under one name
an index holds the first (`first?`), and it lists the names in the order of these first tags
(`names_entries_ofTags`, `mem_entries_ofTags_iff`). So an index of two lists is that of the first
list, extended with the names that only the second one has (`entries_ofTags_append`).
-/

namespace RouteMap.Tag

/-- The name under which a tag is known, and its text. -/
def known (t : Tag) : String × String := (canonicalName t.name, t.text)

/-- The first tag that is known under a name. -/
def first? (tags : List Tag) (name : String) : Option Tag :=
  tags.find? fun t => canonicalName t.name = name

theorem lookup_known (tags : List Tag) (name : String) :
    (tags.map known).lookup name = (first? tags name).map Tag.text := by
  unfold first?
  induction tags with
  | nil => rfl
  | cons t tags ih =>
    rw [List.map_cons, known, Table.lookup_cons, ih, List.find?_cons]
    by_cases hname : canonicalName t.name = name
    · simp [hname]
    · simp [hname, Ne.symm hname]

namespace Index

theorem get?_ofTags (tags : List Tag) (name : String) :
    (ofTags tags).get? name = (tags.map known).lookup (canonicalName name) :=
  Table.get?_ofListFirst _ _

theorem ofTags_filter (keeps : String → Bool) (tags : List Tag) :
    ofTags (tags.filter fun t => keeps (canonicalName t.name)) =
      (ofTags tags).filter fun name _ => keeps name := by
  unfold ofTags Index.filter
  rw [Table.filter_ofListFirst, List.filter_map]
  rfl

/-- The names are listed in the order in which they first occur, each once. -/
theorem names_entries_ofTags (tags : List Tag) :
    (ofTags tags).entries.map Prod.fst = (tags.map fun t => canonicalName t.name).eraseDups := by
  have hnames := Table.names_ofListFirst (tags.map known)
  rw [List.map_map] at hnames
  exact hnames

theorem mem_entries_ofTags_iff (tags : List Tag) (name text : String) :
    (name, text) ∈ (ofTags tags).entries ↔ (first? tags name).map Tag.text = some text := by
  rw [← lookup_known, ← Table.get?_ofListFirst]
  exact Table.mem_entries_iff

theorem contains_ofTags_iff (tags : List Tag) (name : String) :
    (ofTags tags).contains name = true ↔
      ∃ t ∈ tags, canonicalName t.name = canonicalName name := by
  unfold contains Table.contains
  rw [List.contains_iff_mem]
  show canonicalName name ∈ (ofTags tags).entries.map Prod.fst ↔ _
  rw [names_entries_ofTags, List.mem_eraseDups, List.mem_map]

/-- The tags below a beginning are those whose names have it, without it. -/
theorem below_eq_map_filter (index : Index) (start : String) :
    index.below start =
      (index.entries.filter fun e => start.toList <+: e.1.toList).map fun e =>
        (String.ofList (e.1.toList.drop start.toList.length), e.2) := by
  rw [← List.filterMap_eq_map, List.filterMap_filter, below]
  apply List.filterMap_congr
  rintro ⟨name, text⟩ -
  show (Text.after? start.toList name.toList).map _ = _
  rw [Text.after?_eq_ite]
  by_cases hstart : start.toList <+: name.toList <;> simp [hstart]

/-- **Tags of a second list are listed behind those of the first one, if their names are new.** -/
theorem entries_ofTags_append (tags more : List Tag) :
    (ofTags (tags ++ more)).entries = (ofTags tags).entries ++
      (ofTags more).entries.filter fun e => e.1 ∉ (ofTags tags).entries.map Prod.fst := by
  unfold ofTags
  rw [List.map_append, Table.ofListFirst_append]
  rfl

theorem get?_ofTags_append (tags more : List Tag) (name : String) :
    (ofTags (tags ++ more)).get? name =
      ((ofTags tags).get? name).or ((ofTags more).get? name) := by
  unfold ofTags get?
  rw [List.map_append, Table.ofListFirst_append, Table.get?_extend]

/-- **An index holds the first tag of each name.** It gives a name the text of the first tag that
is known under it. It lists the names in the order in which they first occur, each once, with the
texts of their first tags; the names below a beginning are those of the listing that have it. Tags
of a second list are listed behind those of the first one, if their names are new, so a tag beside
a method never takes the place of one in its comment. -/
theorem ofTags_first_wins (tags more : List Tag) (m : Method) :
    (∀ name, (ofTags tags).get? name = (first? tags (canonicalName name)).map Tag.text) ∧
      (∀ name, (ofTags tags).contains name = true ↔
        ∃ t ∈ tags, canonicalName t.name = canonicalName name) ∧
      (ofTags tags).entries.map Prod.fst = (tags.map fun t => canonicalName t.name).eraseDups ∧
      (∀ name text, (name, text) ∈ (ofTags tags).entries ↔
        (first? tags name).map Tag.text = some text) ∧
      (∀ start, (ofTags tags).below start =
        ((ofTags tags).entries.filter fun e => start.toList <+: e.1.toList).map fun e =>
          (String.ofList (e.1.toList.drop start.toList.length), e.2)) ∧
      (ofTags (tags ++ more)).entries = (ofTags tags).entries ++
        ((ofTags more).entries.filter fun e => e.1 ∉ (ofTags tags).entries.map Prod.fst) ∧
      ∀ name, m.index.get? name =
        ((ofTags (m.comment.elim [] ofComment)).get? name).or ((ofTags m.tags).get? name) := by
  refine ⟨?_, contains_ofTags_iff tags, names_entries_ofTags tags, mem_entries_ofTags_iff tags,
    below_eq_map_filter (ofTags tags), entries_ofTags_append tags more, ?_⟩
  · intro name
    rw [get?_ofTags, lookup_known]
  · exact get?_ofTags_append (m.comment.elim [] ofComment) m.tags

end Index

end RouteMap.Tag
