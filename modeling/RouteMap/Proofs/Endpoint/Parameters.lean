import RouteMap.Proofs.Endpoint.Groups
import RouteMap.Proofs.Text.Numeral

/-!
# Parameters, results and exceptions come back from their tags

Request parameters, result fields and exceptions are three families of groups. Whoever writes
the tags of a list of them, among whatever other tags, gets the list back, and the tags of one
family do not show in the other two (`lists_read_from_tags`).
-/

namespace RouteMap.Endpoint

open Text (Padding)

/-! ## The three families -/

namespace Family

/-- The family of the request parameters. -/
def params : Family where
  start := Tag.Key.params
  suffixes := ["exampleValue", "type", "optional", "name"]
  first := ⟨'a', _, rfl, by decide, by decide⟩

/-- The family of the result fields. -/
def results : Family where
  start := Tag.Key.results
  suffixes := ["type", "optional", "name"]
  first := ⟨'a', _, rfl, by decide, by decide⟩

/-- The family of the exceptions. -/
def exceptions : Family where
  start := Tag.Key.exceptions
  suffixes := ["description", "code"]
  first := ⟨'a', _, rfl, by decide, by decide⟩

end Family

/-! ## What the tags are written for -/

/-- A field and how it is written. Every text for its public name is a name that has no blanks at
its ends between blanks. -/
structure Field.Source where
  word : String
  description : String
  type : Option String := none
  required : Bool := true
  publicName : Option { name : String // Text.trim name.toList = name.toList } := none
  /-- What the tag says by which the field is optional. -/
  remark : String := ""
  /-- The blanks around the public name. -/
  padding : Padding := {}
  bare : isBareName word = true := by decide

/-- A request parameter and how it is written. -/
structure Parameter.Source extends Field.Source where
  exampleValue : Option String := none

/-- An exception and how it is written. -/
structure Failure.Source where
  word : String
  condition : String
  description : Option String := none
  code : Option Int32 := none
  /-- The blanks around the code. -/
  padding : Padding := {}
  bare : isBareName word = true := by decide

namespace Field.Source

/-- The field. -/
def field (s : Source) : Field where
  name := (s.publicName.map Subtype.val).getD s.word
  type := s.type
  description := s.description
  required := s.required

/-- The refinements by which a field is written. -/
def refinements (s : Source) : List (String × Option String) :=
  [("type", s.type), ("optional", if s.required then none else some s.remark),
    ("name", s.publicName.map fun name => s.padding.around name.val)]

/-- The group by which a field is written. -/
def group (s : Source) : Group := ⟨s.word, s.description, s.refinements⟩

end Field.Source

namespace Parameter.Source

/-- The parameter. -/
def parameter (s : Source) : Parameter := { s.field with exampleValue := s.exampleValue }

/-- The group by which a parameter is written. -/
def group (s : Source) : Group :=
  ⟨s.word, s.description, ("exampleValue", s.exampleValue) :: s.refinements⟩

end Parameter.Source

namespace Failure.Source

/-- The exception. -/
def failure (s : Source) : Failure :=
  { name := s.word, condition := s.condition, description := s.description, code := s.code }

/-- The group by which an exception is written. -/
def group (s : Source) : Group :=
  ⟨s.word, s.condition, [("description", s.description),
    ("code", s.code.map fun n => s.padding.around (String.ofList (Text.integer n.toInt)))]⟩

end Failure.Source

/-! ## Reading the groups -/

variable {f : Family} {tags : List Tag}

theorem accepts_map {α : Type} {group : α → Group} {sources : List α}
    (hbare : ∀ s, isBareName (group s).word = true)
    (hsuffixes : ∀ s, (group s).refinements.map Prod.fst = f.suffixes)
    (hwords : (sources.map fun s => (group s).word).Nodup) : f.Accepts (sources.map group) where
  bare := by
    intro g hg
    obtain ⟨s, -, rfl⟩ := List.mem_map.mp hg
    exact hbare s
  words := by
    rw [List.map_map]
    exact hwords
  suffixes := by
    intro g hg
    obtain ⟨s, -, rfl⟩ := List.mem_map.mp hg
    exact hsuffixes s

theorem fieldOf_of_holds {gs : List Group} (haccepts : f.Accepts gs) (hholds : f.Holds gs tags)
    {g : Group} (hg : g ∈ gs) {s : Field.Source} (hword : g.word = s.word)
    (hrefinements : ∀ r ∈ s.refinements, r ∈ g.refinements) :
    fieldOf (.ofTags tags) f.start s.word s.description = s.field := by
  have hread : ∀ {suffix : String} {text : Option String}, (suffix, text) ∈ s.refinements →
      refinement (.ofTags tags) f.start s.word suffix = text := by
    intro suffix text hmem
    rw [← hword]
    exact refinement_of_holds haccepts hholds hg (hrefinements _ hmem)
  have htype : refinement (.ofTags tags) f.start s.word "type" = s.type := hread (.head _)
  have hoptional : refinement (.ofTags tags) f.start s.word "optional" =
      if s.required then none else some s.remark := hread (.tail _ (.head _))
  have hname : refinement (.ofTags tags) f.start s.word "name" =
      s.publicName.map fun name => s.padding.around name.val :=
    hread (.tail _ (.tail _ (.head _)))
  have hrequired : (if s.required then none else some s.remark).isNone = s.required := by
    cases s.required <;> rfl
  have hpublic : (s.publicName.map fun name => s.padding.around name.val).map Text.trimmed =
      s.publicName.map Subtype.val := by
    cases s.publicName with
    | none => rfl
    | some name => exact congrArg some (Text.trimmed_around s.padding name.property)
  rw [fieldOf, htype, hoptional, hname, hrequired, hpublic, Field.Source.field]

theorem params_of_holds {sources : List Parameter.Source}
    (hwords : (sources.map fun s => s.word).Nodup)
    (hholds : Family.params.Holds (sources.map Parameter.Source.group) tags) :
    params (.ofTags tags) = sources.map Parameter.Source.parameter := by
  have haccepts : Family.params.Accepts (sources.map Parameter.Source.group) :=
    accepts_map (fun s => s.bare) (fun _ => rfl) hwords
  have hgroups : groups (.ofTags tags) Tag.Key.params = _ :=
    groups_of_holds (f := .params) haccepts hholds
  rw [params, hgroups, List.map_map, List.map_map]
  apply List.map_congr_left
  intro s hs
  have hg : s.group ∈ sources.map Parameter.Source.group := List.mem_map_of_mem hs
  have hfield : fieldOf (.ofTags tags) Tag.Key.params s.word s.description = s.field :=
    fieldOf_of_holds (f := .params) haccepts hholds hg rfl fun _ hr => List.mem_cons_of_mem _ hr
  have hexample : refinement (.ofTags tags) Tag.Key.params s.word "exampleValue" =
      s.exampleValue := refinement_of_holds (f := .params) haccepts hholds hg List.mem_cons_self
  show Parameter.mk (fieldOf _ Tag.Key.params s.word s.description)
    (refinement _ Tag.Key.params s.word "exampleValue") = _
  rw [hfield, hexample]
  rfl

theorem results_of_holds {sources : List Field.Source}
    (hwords : (sources.map fun s => s.word).Nodup)
    (hholds : Family.results.Holds (sources.map Field.Source.group) tags) :
    results (.ofTags tags) = sources.map Field.Source.field := by
  have haccepts : Family.results.Accepts (sources.map Field.Source.group) :=
    accepts_map (fun s => s.bare) (fun _ => rfl) hwords
  have hgroups : groups (.ofTags tags) Tag.Key.results = _ :=
    groups_of_holds (f := .results) haccepts hholds
  rw [results, hgroups, List.map_map, List.map_map]
  apply List.map_congr_left
  intro s hs
  exact fieldOf_of_holds (f := .results) haccepts hholds (List.mem_map_of_mem hs) rfl fun _ hr => hr

theorem failures_of_holds {sources : List Failure.Source}
    (hwords : (sources.map fun s => s.word).Nodup)
    (hholds : Family.exceptions.Holds (sources.map Failure.Source.group) tags) :
    failures (.ofTags tags) = sources.map Failure.Source.failure := by
  have haccepts : Family.exceptions.Accepts (sources.map Failure.Source.group) :=
    accepts_map (fun s => s.bare) (fun _ => rfl) hwords
  have hgroups : groups (.ofTags tags) Tag.Key.exceptions = _ :=
    groups_of_holds (f := .exceptions) haccepts hholds
  rw [failures, hgroups, List.map_map, List.map_map]
  apply List.map_congr_left
  intro s hs
  have hg : s.group ∈ sources.map Failure.Source.group := List.mem_map_of_mem hs
  have hdescription : refinement (.ofTags tags) Tag.Key.exceptions s.word "description" =
      s.description := refinement_of_holds (f := .exceptions) haccepts hholds hg List.mem_cons_self
  have hcode : codeText (.ofTags tags) s.word =
      s.code.map fun n => s.padding.around (String.ofList (Text.integer n.toInt)) :=
    refinement_of_holds (f := .exceptions) haccepts hholds hg (.tail _ (.head _))
  have hvalue : (s.code.map fun n =>
      s.padding.around (String.ofList (Text.integer n.toInt))).bind codeOf = s.code := by
    cases s.code with
    | none => rfl
    | some n =>
      have htrim : Text.trim (String.ofList (Text.integer n.toInt)).toList =
          (String.ofList (Text.integer n.toInt)).toList := by
        rw [String.toList_ofList, Text.trim_integer]
      rw [Option.map_some, Option.bind_some, codeOf, Text.trimmed_around s.padding htrim,
        Text.int32?_integer]
  show Failure.mk s.word s.condition (refinement _ Tag.Key.exceptions s.word "description")
    ((codeText _ s.word).bind codeOf) = _
  rw [hdescription, hcode, hvalue]
  rfl

/-! ## Tags of other families -/

section

variable {keeps : String → String → Bool} (t : Tag.Index)

theorem groups_filter_family (h : ∀ name text, f.Has name → keeps name text = true) :
    groups (t.filter keeps) f.start = groups t f.start := by
  apply groups_filter
  intro name text _
  apply h
  unfold Family.Has
  rw [String.toList_append]
  exact List.prefix_append _ _

theorem params_filter (h : ∀ name text, Family.params.Has name → keeps name text = true) :
    params (t.filter keeps) = params t := by
  have hgroups : groups (t.filter keeps) Tag.Key.params = groups t Tag.Key.params :=
    groups_filter_family (f := .params) t h
  have hrefinement : ∀ word, ∀ suffix ∈ Family.params.suffixes,
      refinement (t.filter keeps) Tag.Key.params word suffix =
        refinement t Tag.Key.params word suffix :=
    fun word _ hsuffix => refinement_filter (f := .params) h t word hsuffix
  simp only [params, fieldOf, hgroups, hrefinement _ "type" (by decide),
    hrefinement _ "optional" (by decide), hrefinement _ "name" (by decide),
    hrefinement _ "exampleValue" (by decide)]

theorem results_filter (h : ∀ name text, Family.results.Has name → keeps name text = true) :
    results (t.filter keeps) = results t := by
  have hgroups : groups (t.filter keeps) Tag.Key.results = groups t Tag.Key.results :=
    groups_filter_family (f := .results) t h
  have hrefinement : ∀ word, ∀ suffix ∈ Family.results.suffixes,
      refinement (t.filter keeps) Tag.Key.results word suffix =
        refinement t Tag.Key.results word suffix :=
    fun word _ hsuffix => refinement_filter (f := .results) h t word hsuffix
  simp only [results, fieldOf, hgroups, hrefinement _ "type" (by decide),
    hrefinement _ "optional" (by decide), hrefinement _ "name" (by decide)]

theorem failures_filter (h : ∀ name text, Family.exceptions.Has name → keeps name text = true) :
    failures (t.filter keeps) = failures t := by
  have hgroups : groups (t.filter keeps) Tag.Key.exceptions = groups t Tag.Key.exceptions :=
    groups_filter_family (f := .exceptions) t h
  have hrefinement : ∀ word, ∀ suffix ∈ Family.exceptions.suffixes,
      refinement (t.filter keeps) Tag.Key.exceptions word suffix =
        refinement t Tag.Key.exceptions word suffix :=
    fun word _ hsuffix => refinement_filter (f := .exceptions) h t word hsuffix
  simp only [failures, codeText, hgroups, hrefinement _ "description" (by decide),
    hrefinement _ "code" (by decide)]

end

/-- The tags that are of none of some families. -/
def without (families : List Family) (tags : List Tag) : List Tag :=
  tags.filter fun t => families.all fun f => !decide (f.Has (Tag.canonicalName t.name))

/-- No name is of two families of which neither begins as the other does. -/
theorem Family.not_has {f f' : Family} (h : ¬ f.start.toList <+: f'.start.toList)
    (h' : ¬ f'.start.toList <+: f.start.toList) {name : String} (hname : f.Has name) :
    ¬ f'.Has name := by
  intro hname'
  rcases List.prefix_or_prefix_of_prefix hname hname' with hle | hle
  · exact h hle
  · exact h' hle

theorem keeps_of_has {families : List Family}
    (h : ∀ f' ∈ families, ¬ f.start.toList <+: f'.start.toList ∧
      ¬ f'.start.toList <+: f.start.toList) {name : String} (hname : f.Has name) :
    (families.all fun f' => !decide (f'.Has name)) = true := by
  rw [List.all_eq_true]
  intro f' hf'
  simpa using Family.not_has (h f' hf').1 (h f' hf').2 hname

/-- **The lists come back from their tags.** Request parameters with different words are read
from tags that hold theirs, in their order and with nothing beside them, and so are result fields
and exceptions. Of the three lists none changes when the tags of the two other families go. -/
theorem lists_read_from_tags :
    (∀ (sources : List Parameter.Source) (tags : List Tag),
      (sources.map fun s => s.word).Nodup →
      Family.params.Holds (sources.map Parameter.Source.group) tags →
      params (.ofTags tags) = sources.map Parameter.Source.parameter) ∧
    (∀ (sources : List Field.Source) (tags : List Tag),
      (sources.map fun s => s.word).Nodup →
      Family.results.Holds (sources.map Field.Source.group) tags →
      results (.ofTags tags) = sources.map Field.Source.field) ∧
    (∀ (sources : List Failure.Source) (tags : List Tag),
      (sources.map fun s => s.word).Nodup →
      Family.exceptions.Holds (sources.map Failure.Source.group) tags →
      failures (.ofTags tags) = sources.map Failure.Source.failure) ∧
    ∀ tags : List Tag,
      params (.ofTags (without [.results, .exceptions] tags)) = params (.ofTags tags) ∧
      results (.ofTags (without [.params, .exceptions] tags)) = results (.ofTags tags) ∧
      failures (.ofTags (without [.params, .results] tags)) = failures (.ofTags tags) := by
  refine ⟨fun _ _ => params_of_holds, fun _ _ => results_of_holds,
    fun _ _ => failures_of_holds, ?_⟩
  intro tags
  have hwithout : ∀ families : List Family, Tag.Index.ofTags (without families tags) =
      (Tag.Index.ofTags tags).filter fun name _ => families.all fun f => !decide (f.Has name) :=
    fun families => Tag.Index.ofTags_filter (fun name => families.all fun f => !decide (f.Has name))
      tags
  rw [hwithout, hwithout, hwithout]
  refine ⟨params_filter _ ?_, results_filter _ ?_, failures_filter _ ?_⟩
  · intro name _ hname
    exact keeps_of_has (by decide) hname
  · intro name _ hname
    exact keeps_of_has (by decide) hname
  · intro name _ hname
    exact keeps_of_has (by decide) hname

/-- Tags of the three families for one word, in no good order: a refinement comes before its group,
and between the parameters stand a longer word and a refinement of a word that has no group. -/
def mixedTags : List Tag :=
  [⟨"apifest.docs.params.id.type", "string"⟩, ⟨"@apifest.docs.params.ids", "All"⟩,
    ⟨"apifest.docs.results.id", "Whose"⟩, ⟨" apifest.docs.params.id", "Whom"⟩,
    ⟨"apifest.docs.params.idx.type", "list"⟩, ⟨"apifest.docs.exceptions.id.code", " -404"⟩,
    ⟨"apifest.docs.params.id.optional", "yes"⟩, ⟨"apifest.docs.params.ids.name", " user.ids\t"⟩,
    ⟨"apifest.docs.exceptions.id", "Unknown"⟩]

/-- The tags by their canonical names. -/
def mixedNames : List (String × String) :=
  [("apifest.docs.params.id.type", "string"), ("apifest.docs.params.ids", "All"),
    ("apifest.docs.results.id", "Whose"), ("apifest.docs.params.id", "Whom"),
    ("apifest.docs.params.idx.type", "list"), ("apifest.docs.exceptions.id.code", " -404"),
    ("apifest.docs.params.id.optional", "yes"), ("apifest.docs.params.ids.name", " user.ids\t"),
    ("apifest.docs.exceptions.id", "Unknown")]

/-- The parameters of `mixedTags`. -/
def mixedParameters : List Parameter.Source :=
  [{ word := "ids", description := "All", publicName := some ⟨"user.ids", by decide⟩
     padding := { before := [' '], after := ['\t'] } },
    { word := "id", description := "Whom", type := some "string", required := false
      remark := "yes" }]

/-- The result fields of `mixedTags`. -/
def mixedResults : List Field.Source := [{ word := "id", description := "Whose" }]

/-- The exceptions of `mixedTags`. -/
def mixedFailures : List Failure.Source :=
  [{ word := "id", condition := "Unknown", code := some (-404), padding := { before := [' '] } }]

/-- All three lists come back. -/
theorem lists_read_from_tags_mixed :
    Family.params.Holds (mixedParameters.map Parameter.Source.group) mixedTags ∧
      Family.results.Holds (mixedResults.map Field.Source.group) mixedTags ∧
      Family.exceptions.Holds (mixedFailures.map Failure.Source.group) mixedTags ∧
      params (.ofTags mixedTags) =
        [{ name := "user.ids", type := none, description := "All", required := true
           exampleValue := none },
          { name := "id", type := some "string", description := "Whom", required := false
            exampleValue := none }] ∧
      results (.ofTags mixedTags) =
        [{ name := "id", type := none, description := "Whose", required := true }] ∧
      failures (.ofTags mixedTags) =
        [{ name := "id", condition := "Unknown", description := none, code := some (-404) }] := by
  have hknown : mixedTags.map Tag.known = mixedNames := by decide +kernel
  have hparams : Family.params.Holds (mixedParameters.map Parameter.Source.group) mixedTags :=
    Family.holds_of_known [mixedNames[2], mixedNames[4], mixedNames[5], mixedNames[8]]
      hknown (by decide +kernel) (by decide +kernel) (by decide +kernel)
  have hresults : Family.results.Holds (mixedResults.map Field.Source.group) mixedTags :=
    Family.holds_of_known (mixedNames.eraseIdx 2)
      hknown (by decide +kernel) (by decide +kernel) (by decide +kernel)
  have hfailures : Family.exceptions.Holds (mixedFailures.map Failure.Source.group) mixedTags :=
    Family.holds_of_known ((mixedNames.eraseIdx 8).eraseIdx 5)
      hknown (by decide +kernel) (by decide +kernel) (by decide +kernel)
  obtain ⟨hreadParams, hreadResults, hreadFailures, -⟩ := lists_read_from_tags
  exact ⟨hparams, hresults, hfailures, hreadParams mixedParameters mixedTags (by decide) hparams,
    hreadResults mixedResults mixedTags (by decide) hresults,
    hreadFailures mixedFailures mixedTags (by decide) hfailures⟩

end RouteMap.Endpoint
