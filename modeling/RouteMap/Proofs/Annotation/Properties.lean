import RouteMap.Annotation.Properties
import RouteMap.Proofs.Table.Update
import RouteMap.Proofs.Text.Lines

/-!
# What annotations contribute

The annotations of an endpoint are read one after another. One that names a verb replaces the
verb and adds nothing else, whatever the registry says of its type
(`selected_extracted_unless_verb`); any other one assigns the properties of its selected
attributes. So the annotations of two lists, one behind the other, say what the first list says,
updated with what the second one says, and every property is the last contribution to its name
(`properties_compose`).
-/

namespace RouteMap.Annotation

variable {r : Registry} {a : Annotation} {as bs : List Annotation}

/-- Whether an annotation names a verb. -/
def isVerb (a : Annotation) : Bool := (Verb.ofName? a.simpleName).isSome

/-! ## One annotation -/

/-- The properties that an annotation assigns. -/
def assigned (r : Registry) (a : Annotation) : List (String × String) :=
  if a.isVerb then [] else a.selected r

theorem verb_add (p : Properties) (a : Annotation) :
    (p.add r a).verb = (Verb.ofName? a.simpleName).or p.verb := by
  unfold Properties.add
  cases Verb.ofName? a.simpleName <;> rfl

theorem custom_add (p : Properties) (a : Annotation) :
    (p.add r a).custom =
      (a.assigned r).foldl (fun t (name, v) => t.insert name v) p.custom := by
  unfold Properties.add assigned isVerb
  cases Verb.ofName? a.simpleName <;> rfl

theorem mem_selected_iff {name text : String} :
    (name, text) ∈ a.selected r ↔ ∃ attr v, (attr, v) ∈ a.attributes.entries ∧
      r.selects a.type attr = true ∧ a.type ++ "." ++ attr = name ∧ v.flatten = text := by
  unfold selected
  rw [List.mem_map]
  constructor
  · rintro ⟨⟨attr, v⟩, hmem, heq⟩
    obtain ⟨hentry, hselects⟩ := List.mem_filter.mp hmem
    obtain ⟨hname, htext⟩ := Prod.mk.inj heq
    exact ⟨attr, v, hentry, hselects, hname, htext⟩
  · rintro ⟨attr, v, hentry, hselects, rfl, rfl⟩
    exact ⟨(attr, v), List.mem_filter.mpr ⟨hentry, hselects⟩, rfl⟩

/-- The properties of one annotation have distinct names, as its attributes have. -/
theorem nodup_assigned (r : Registry) (a : Annotation) :
    ((a.assigned r).map Prod.fst).Nodup := by
  unfold assigned
  split
  · exact List.nodup_nil
  · have hnames : ((a.attributes.entries.filter fun e => r.selects a.type e.1).map
        Prod.fst).Nodup :=
      a.attributes.distinct.sublist (List.filter_sublist.map Prod.fst)
    have hinj : Function.Injective fun name => a.type ++ "." ++ name := by
      intro name name' heq
      exact (String.append_right_inj _).mp heq
    have hmap := hnames.map hinj
    rw [List.map_map] at hmap
    unfold selected
    rw [List.map_map]
    exact hmap

/-! ## Lists of annotations -/

theorem verb_foldl (as : List Annotation) (p : Properties) :
    (as.foldl (Properties.add r) p).verb =
      (as.reverse.findSome? fun a => Verb.ofName? a.simpleName).or p.verb := by
  induction as generalizing p with
  | nil => rfl
  | cons a as ih =>
    have hhead :
        [a].findSome? (fun a => Verb.ofName? a.simpleName) = Verb.ofName? a.simpleName := by
      rw [List.findSome?_cons]
      cases Verb.ofName? a.simpleName <;> rfl
    rw [List.foldl_cons, ih, verb_add, List.reverse_cons, List.findSome?_append, Option.or_assoc,
      hhead]

theorem custom_foldl (as : List Annotation) (p : Properties) :
    (as.foldl (Properties.add r) p).custom =
      (as.flatMap (assigned r)).foldl (fun t (name, v) => t.insert name v) p.custom := by
  induction as generalizing p with
  | nil => rfl
  | cons a as ih => rw [List.foldl_cons, ih, custom_add, List.flatMap_cons, List.foldl_append]

theorem custom_properties (r : Registry) (as : List Annotation) :
    (properties r as).custom = .ofList (as.flatMap (assigned r)) :=
  custom_foldl as {}

theorem verb_append (r : Registry) (as bs : List Annotation) :
    (properties r (as ++ bs)).verb =
      if bs.any isVerb then (properties r bs).verb else (properties r as).verb := by
  have happend : (properties r (as ++ bs)).verb =
      (bs.reverse.findSome? fun b => Verb.ofName? b.simpleName).or (properties r as).verb := by
    unfold properties
    rw [List.foldl_append, verb_foldl]
  have hbs : (properties r bs).verb =
      bs.reverse.findSome? fun b => Verb.ofName? b.simpleName := by
    unfold properties
    rw [verb_foldl]
    exact Option.or_none
  have hany : bs.any isVerb = (properties r bs).verb.isSome := by
    rw [hbs, List.isSome_findSome?, List.any_reverse]
    rfl
  rw [happend, hany, ← hbs]
  cases (properties r bs).verb <;> rfl

theorem custom_append (r : Registry) (as bs : List Annotation) :
    (properties r (as ++ bs)).custom =
      (properties r as).custom.update (properties r bs).custom := by
  rw [custom_properties r bs, ← Table.foldl_insert_eq_update]
  unfold properties
  rw [List.foldl_append, custom_foldl]

/-! ## Contributions -/

/-- An attribute of an annotation, with its value. -/
structure Contribution where
  annotation : Annotation
  attr : String
  value : Value

namespace Contribution

/-- The name of the property to which an attribute contributes. -/
def name (c : Contribution) : String := c.annotation.type ++ "." ++ c.attr

/-- Whether the annotation, read alone, has the attribute as a property. -/
def Shows (r : Registry) (c : Contribution) : Prop :=
  (c.name, c.value.flatten) ∈ (properties r [c.annotation]).custom.entries

instance (r : Registry) (c : Contribution) : Decidable (c.Shows r) :=
  inferInstanceAs (Decidable (_ ∈ _))

end Contribution

/-- The attributes of an annotation. -/
def pairs (a : Annotation) : List Contribution :=
  a.attributes.entries.map fun (attr, value) => ⟨a, attr, value⟩

/-- The attributes that contribute: those that the properties of their annotation alone show. -/
def contributions (r : Registry) (as : List Annotation) : List Contribution :=
  (as.flatMap pairs).filter fun c => c.Shows r

theorem shows_iff {c : Contribution} (hc : (c.attr, c.value) ∈ c.annotation.attributes.entries) :
    c.Shows r ↔ c.annotation.isVerb = false ∧ r.selects c.annotation.type c.attr = true := by
  have hentries : (properties r [c.annotation]).custom.entries = c.annotation.assigned r := by
    rw [custom_properties, List.flatMap_singleton, Table.ofList, Table.entries_foldl_insert]
    · rfl
    · exact nodup_assigned r c.annotation
  unfold Contribution.Shows assigned at *
  rw [hentries]
  cases c.annotation.isVerb with
  | true => simp
  | false =>
    simp only [Bool.false_eq_true, ↓reduceIte, true_and, mem_selected_iff]
    constructor
    · rintro ⟨attr, v, -, hselects, hname, -⟩
      obtain rfl : attr = c.attr := (String.append_right_inj _).mp hname
      exact hselects
    · intro hselects
      exact ⟨c.attr, c.value, hc, hselects, rfl, rfl⟩

theorem mem_pairs_iff {c : Contribution} :
    c ∈ a.pairs ↔ c.annotation = a ∧ (c.attr, c.value) ∈ a.attributes.entries := by
  unfold pairs
  rw [List.mem_map]
  constructor
  · rintro ⟨⟨attr, v⟩, hentry, rfl⟩
    exact ⟨rfl, hentry⟩
  · rintro ⟨rfl, hentry⟩
    exact ⟨_, hentry, rfl⟩

theorem mem_contributions_iff {c : Contribution} :
    c ∈ contributions r as ↔ c.annotation ∈ as ∧
      (c.attr, c.value) ∈ c.annotation.attributes.entries ∧
      c.annotation.isVerb = false ∧ r.selects c.annotation.type c.attr = true := by
  unfold contributions
  rw [List.mem_filter, List.mem_flatMap, decide_eq_true_eq]
  constructor
  · rintro ⟨⟨a, ha, hc⟩, hshows⟩
    obtain ⟨rfl, hentry⟩ := mem_pairs_iff.mp hc
    exact ⟨ha, hentry, (shows_iff hentry).mp hshows⟩
  · rintro ⟨ha, hentry, hcond⟩
    exact ⟨⟨c.annotation, ha, mem_pairs_iff.mpr ⟨rfl, hentry⟩⟩, (shows_iff hentry).mpr hcond⟩

/-- The properties that are assigned are the contributions. -/
theorem map_contributions (r : Registry) (as : List Annotation) :
    (contributions r as).map (fun c => (c.name, c.value.flatten)) = as.flatMap (assigned r) := by
  unfold contributions
  rw [List.filter_flatMap, List.map_flatMap]
  congr 1
  funext a
  have hshows : ∀ c ∈ a.pairs, decide (c.Shows r) =
      (!a.isVerb && r.selects a.type c.attr) := by
    intro c hc
    obtain ⟨rfl, hentry⟩ := mem_pairs_iff.mp hc
    rw [Bool.eq_iff_iff, decide_eq_true_eq, shows_iff hentry]
    simp
  rw [List.filter_congr hshows, pairs, List.filter_map, List.map_map, assigned, selected]
  cases a.isVerb with
  | true => simp
  | false => rfl

theorem get?_eq_last_contribution (r : Registry) (as : List Annotation) (q : String) :
    (properties r as).custom.get? q =
      ((contributions r as).filter fun c => c.name = q).getLast?.map fun c => c.value.flatten := by
  rw [custom_properties, ← map_contributions, Table.ofList, Table.get?_foldl_insert,
    Table.get?_empty, Option.or_none, ← List.map_reverse, List.getLast?_filter]
  induction (contributions r as).reverse with
  | nil => rfl
  | cons c cs ih =>
    rw [List.map_cons, Table.lookup_cons, List.find?_cons]
    by_cases hq : c.name = q
    · simp [hq]
    · simp [hq, Ne.symm hq, ih]

theorem names_eq_first_contributions (r : Registry) (as : List Annotation) :
    (properties r as).custom.names = ((contributions r as).map Contribution.name).eraseDups := by
  rw [custom_properties, ← map_contributions, Table.names_ofList, List.map_map]
  rfl

/-- A name is cut at its last point, so it tells type and attribute if no attribute has one. -/
theorem eq_of_name_eq {c d : Contribution} (hc : '.' ∉ c.attr.toList)
    (hd : '.' ∉ d.attr.toList) (h : c.name = d.name) :
    c.annotation.type = d.annotation.type ∧ c.attr = d.attr := by
  have hcut : ∀ {e : Contribution}, '.' ∉ e.attr.toList →
      Text.cutLast '.' e.name.toList =
        some (e.annotation.type.toList, e.attr.toList) := by
    intro e he
    rw [Contribution.name, String.toList_append, String.toList_append, List.append_assoc]
    exact Text.cutLast_append he _
  have heq := hcut hd
  rw [← h, hcut hc, Option.some.injEq, Prod.mk.injEq] at heq
  exact ⟨String.toList_inj.mp heq.1, String.toList_inj.mp heq.2⟩

/-- **What annotations say is composed of what each one says.** Of two lists, one behind the
other, the verb is that of the second list if it has one and else that of the first, and the
properties are those of the first list updated with those of the second. A property is the last
contribution to its name, the names stand in the order of their first contributions, and there
are no others. An attribute contributes if its annotation names no verb and the registry selects
it. If no attribute has a point in its name, contributions to one property come from one
attribute of one type. -/
theorem properties_compose (r : Registry) (as bs : List Annotation) :
    (properties r (as ++ bs)).verb =
        (if bs.any isVerb then (properties r bs).verb else (properties r as).verb) ∧
      (properties r (as ++ bs)).custom =
        (properties r as).custom.update (properties r bs).custom ∧
      (∀ q, (properties r as).custom.get? q =
        ((contributions r as).filter fun c => c.name = q).getLast?.map fun c => c.value.flatten) ∧
      (properties r as).custom.names = ((contributions r as).map Contribution.name).eraseDups ∧
      (∀ c, c ∈ contributions r as ↔ c.annotation ∈ as ∧
        (c.attr, c.value) ∈ c.annotation.attributes.entries ∧
        c.annotation.isVerb = false ∧ r.selects c.annotation.type c.attr = true) ∧
      ((∀ a ∈ as, ∀ attr ∈ a.attributes.names, '.' ∉ attr.toList) →
        ∀ c ∈ contributions r as, ∀ d ∈ contributions r as, c.name = d.name →
          c.annotation.type = d.annotation.type ∧ c.attr = d.attr) := by
  refine ⟨verb_append r as bs, custom_append r as bs, get?_eq_last_contribution r as,
    names_eq_first_contributions r as, fun c => mem_contributions_iff, ?_⟩
  intro hpoints
  have hpoint : ∀ c ∈ contributions r as, '.' ∉ c.attr.toList := by
    intro c hc
    obtain ⟨hmem, hentry, -⟩ := mem_contributions_iff.mp hc
    exact hpoints c.annotation hmem c.attr (List.mem_map_of_mem hentry)
  intro c hc d hd hname
  exact eq_of_name_eq (hpoint c hc) (hpoint d hd) hname

/-- A limit on requests. -/
def limit (value : Value) (unit : String) : Annotation :=
  { type := "com.example.Limit"
    attributes := (Table.empty.insert "max" value).insert "unit" (.text unit) }

/-- An annotation whose simple name is a verb, with an attribute of its own. -/
def options (allow : String) : Annotation :=
  { type := "com.example.OPTIONS", attributes := Table.empty.insert "allow" (.text allow) }

/-- The second limit replaces the first one in its place, and the second verb the first one. -/
theorem properties_compose_limits :
    let r := (Registry.empty.withAll "com.example.Limit").withAll "com.example.OPTIONS"
    let as := [{ type := "javax.ws.rs.GET" }, limit (.integer 10) "s"]
    let bs := [limit (.array [.integer 20, .flag true]) "s", options "read"]
    (∀ a ∈ as ++ bs, ∀ attr ∈ a.attributes.names, '.' ∉ attr.toList) ∧
      (properties r (as ++ bs)).verb = some .options ∧
      (properties r (as ++ bs)).custom.entries =
        [("com.example.Limit.max", "20,true"), ("com.example.Limit.unit", "s")] ∧
      ∀ c ∈ contributions r (as ++ bs), ∀ d ∈ contributions r (as ++ bs), c.name = d.name →
        c.annotation.type = d.annotation.type ∧ c.attr = d.attr := by
  intro r as bs
  obtain ⟨hverb, hcustom, -⟩ := properties_compose r as bs
  obtain ⟨-, -, -, -, -, hone⟩ := properties_compose r (as ++ bs) []
  have hpoints : ∀ a ∈ as ++ bs, ∀ attr ∈ a.attributes.names, '.' ∉ attr.toList := by
    decide +kernel
  refine ⟨hpoints, ?_, ?_, hone hpoints⟩
  · rw [hverb]
    decide +kernel
  · rw [hcustom]
    decide +kernel

/-! ## Selected attributes -/

theorem contains_custom_iff (r : Registry) (as : List Annotation) (name : String) :
    (properties r as).custom.contains name = true ↔
      ∃ b ∈ as, b.isVerb = false ∧ ∃ attr ∈ b.attributes.names,
        r.selects b.type attr = true ∧ b.type ++ "." ++ attr = name := by
  unfold Table.contains
  rw [List.contains_iff_mem, names_eq_first_contributions, List.mem_eraseDups, List.mem_map]
  constructor
  · rintro ⟨c, hc, rfl⟩
    obtain ⟨hmem, hentry, hverb, hselects⟩ := mem_contributions_iff.mp hc
    exact ⟨c.annotation, hmem, hverb, c.attr, List.mem_map_of_mem hentry, hselects, rfl⟩
  · rintro ⟨b, hb, hverb, attr, hattr, hselects, rfl⟩
    obtain ⟨⟨attr, v⟩, hentry, rfl⟩ := List.mem_map.mp hattr
    exact ⟨⟨b, attr, v⟩, mem_contributions_iff.mpr ⟨hb, hentry, hverb, hselects⟩, rfl⟩

/-- **A selected attribute is extracted unless its annotation names a verb.** It is among the
properties whatever stands before or behind its annotation. The attributes of an annotation that
names a verb are passed over, selected or not: a property of the name is there only if it comes
from an annotation that names none. -/
theorem selected_extracted_unless_verb {r : Registry} {as : List Annotation} {a : Annotation}
    (ha : a ∈ as) {attr : String} (hattr : attr ∈ a.attributes.names)
    (hselects : r.selects a.type attr = true) :
    (a.isVerb = false → (properties r as).custom.contains (a.type ++ "." ++ attr) = true) ∧
      ((properties r as).custom.contains (a.type ++ "." ++ attr) = true ↔
        ∃ b ∈ as, b.isVerb = false ∧ ∃ other ∈ b.attributes.names,
          r.selects b.type other = true ∧ b.type ++ "." ++ other = a.type ++ "." ++ attr) := by
  have hiff := contains_custom_iff r as (a.type ++ "." ++ attr)
  refine ⟨?_, hiff⟩
  intro hverb
  exact hiff.mpr ⟨a, ha, hverb, attr, hattr, hselects, rfl⟩

/-- Both types are registered with all their attributes. The limit is extracted; the annotation
whose simple name is a verb is not. -/
theorem selected_extracted_unless_verb_options :
    let r := (Registry.empty.withAll "com.example.OPTIONS").withAll "com.example.Limit"
    let as := [limit (.integer 10) "s", options "read"]
    r.selects "com.example.Limit" "max" = true ∧ r.selects "com.example.OPTIONS" "allow" = true ∧
      (properties r as).custom.contains "com.example.Limit.max" = true ∧
      (properties r as).custom.contains "com.example.OPTIONS.allow" = false := by
  intro r as
  have hlimit : r.selects "com.example.Limit" "max" = true := by decide +kernel
  have hoptions : r.selects "com.example.OPTIONS" "allow" = true := by decide +kernel
  have hlimitMem : limit (.integer 10) "s" ∈ as := .head _
  have hoptionsMem : options "read" ∈ as := .tail _ (.head _)
  have hmax : "max" ∈ (limit (.integer 10) "s").attributes.names := by decide
  have hallow : "allow" ∈ (options "read").attributes.names := by decide
  refine ⟨hlimit, hoptions, ?_, ?_⟩
  · exact (selected_extracted_unless_verb hlimitMem hmax hlimit).1 (by decide +kernel)
  · have hiff := (selected_extracted_unless_verb hoptionsMem hallow hoptions).2
    rw [Bool.eq_false_iff]
    intro hcontains
    obtain ⟨b, hb, hverb, other, hother, -, hname⟩ := hiff.mp hcontains
    -- the limit is the only annotation without a verb, and its properties have other names
    have hothers : ∀ b ∈ as, b.isVerb = false → ∀ other ∈ b.attributes.names,
        b.type ++ "." ++ other ≠ "com.example.OPTIONS.allow" := by
      decide +kernel
    exact hothers b hb hverb other hother hname

end RouteMap.Annotation
