import RouteMap.Config.Loader
import RouteMap.Document.Documentation
import RouteMap.Document.Mapping
import RouteMap.Input
import RouteMap.Proofs.Json.Insertion

/-!
# Unknown and repeated members

All records of the input are strict and all records of the output documents are lax
(`Shape.uniform`). So no member that is put into a record of the input without being known, or
beside the same member, is passed over in silence, and none that is unknown matters in an output
document, wherever it is put and whatever value it has (`members_put_in`).
-/

namespace RouteMap

namespace Json

/-! ## Records alike -/

mutual

/-- All records in a shape are strict, or all are lax. -/
def Shape.uniform (strict : Bool) : Shape → Bool
  | .list item => item.uniform strict
  | .table value => value.uniform strict
  | .record outer layout => outer == strict && layout.uniform strict
  | _ => true

/-- All records in the fields of a record are strict, or all are lax. -/
def Layout.uniform (strict : Bool) : Layout → Bool
  | .nil => true
  | .field _ _ shape rest => shape.uniform strict && rest.uniform strict

end

variable {strict : Bool} {shape part root : Shape} {layout : Layout}

theorem Layout.uniform_of_find? {name : String} {presence : Presence}
    (h : layout.uniform strict = true) (hfind : layout.find? name = some (presence, part)) :
    part.uniform strict = true := by
  induction layout with
  | nil => cases hfind
  | field key presence' shape rest ih =>
    obtain ⟨hshape, hrest⟩ := Bool.and_eq_true_iff.mp h
    unfold Layout.find? at hfind
    split at hfind
    · obtain ⟨-, rfl⟩ := Prod.mk.inj (Option.some.inj hfind)
      exact hshape
    · exact ih hrest hfind

theorem Layout.uniform_drop (h : layout.uniform strict = true) (n : Nat) :
    (layout.drop n).uniform strict = true := by
  induction n generalizing layout with
  | zero => exact h
  | succ n ih =>
    cases layout with
    | nil => exact h
    | field key presence shape rest => exact ih (Bool.and_eq_true_iff.mp h).2

theorem Layout.uniform_of_slot? {n : Nat} (h : layout.uniform strict = true)
    (hslot : layout.slot? n = some part) : part.uniform strict = true := by
  have hdrop := Layout.uniform_drop h n
  unfold Layout.slot? at hslot
  split at hslot
  · cases hslot
  · next heq =>
    obtain rfl := Option.some.inj hslot
    rw [heq] at hdrop
    exact (Bool.and_eq_true_iff.mp hdrop).1

theorem Frame.uniform_of_due? {frame : Frame} (h : shape.uniform strict = true)
    (hdue : frame.due? shape = some part) : part.uniform strict = true := by
  unfold Frame.due? at hdue
  split at hdue
  · obtain rfl := Option.some.inj hdue
    exact h
  · exact Layout.uniform_of_slot? (Bool.and_eq_true_iff.mp h).2 hdue
  · obtain rfl := Option.some.inj hdue
    exact h
  · obtain ⟨⟨presence, _⟩, hfind, rfl⟩ := Option.map_eq_some_iff.mp hdue
    exact Layout.uniform_of_find? (Bool.and_eq_true_iff.mp h).2 hfind
  · cases hdue

/-- What is due in a document is as its shape is. -/
theorem Stack.uniform_of_due? {stack : List Frame} (h : root.uniform strict = true)
    (hdue : Stack.due? root stack = some part) : part.uniform strict = true := by
  induction stack generalizing part with
  | nil =>
    obtain rfl := Option.some.inj hdue
    exact h
  | cons frame stack ih =>
    obtain ⟨outer, houter, hpart⟩ := Stack.exists_of_due?_cons hdue
    exact Frame.uniform_of_due? (ih houter) hpart

theorem Place.strict_eq {text : String} (p : Place root text) (h : root.uniform strict = true) :
    p.strict = strict :=
  beq_iff_eq.mp (Bool.and_eq_true_iff.mp (Stack.uniform_of_due? h p.due)).1

end Json

open Json

variable {text : String} {chars : List Char} {name : String} {v : Node}

/-! ## Input -/

theorem MethodSet.parse_insert {p : Place MethodSet.shape text} (h : p.Puts chars name v)
    (hname : p.layout.find? name = none ∨ p.Has name v) {s : MethodSet}
    (hs : MethodSet.parse text = .ok s) :
    MethodSet.parse (p.insert chars) = .error (.invalid .mismatch) := by
  have hread := h.read_refused (p.strict_eq (by decide)) hname
  have htext : MethodSet.ofText text = .ok s := by
    unfold MethodSet.parse at hs
    cases hof : MethodSet.ofText text with
    | error c =>
      rw [hof] at hs
      cases hs
    | ok s' =>
      rw [hof] at hs
      cases hs
      rfl
  have hnew : MethodSet.ofText (p.insert chars) = .error .mismatch := hread.bind_left _ s htext
  rw [MethodSet.parse, hnew]
  rfl

theorem Loader.withText_insert {p : Place Config.shape text} (h : p.Puts chars name v)
    (hname : p.layout.find? name = none ∨ p.Has name v) {format : String}
    (hformat : Config.TextFormat.ofName? format = some .json) {l l' : Loader}
    (hl : l.withText text format = .ok l') :
    l.withText (p.insert chars) format = .error (.invalidJson .mismatch) := by
  have hread := h.read_refused (p.strict_eq (by decide)) hname
  unfold Loader.withText at hl ⊢
  simp only [hformat, Config.ofText, Config.ofJsonText] at hl ⊢
  cases hof : Config.shape.read text with
  | error c =>
    rw [hof] at hl
    cases hl
  | ok j =>
    rw [hread j hof]
    rfl

/-! ## Output documents -/

theorem Mapping.ofText_insert {p : Place Mapping.shape text} (h : p.Puts chars name v)
    (hname : p.layout.find? name = none) {m : Mapping} (hm : Mapping.ofText text = .ok m) :
    Mapping.ofText (p.insert chars) = .ok m :=
  (h.read_passed (p.strict_eq (by decide)) hname).bind_left _ m hm

theorem Documentation.ofText_insert {p : Place Documentation.shape text}
    (h : p.Puts chars name v) (hname : p.layout.find? name = none) {d : Documentation}
    (hd : Documentation.ofText text = .ok d) : Documentation.ofText (p.insert chars) = .ok d :=
  (h.read_passed (p.strict_eq (by decide)) hname).bind_left _ d hd

/-- **Unknown members are never passed over in the input and never matter in the documents.** A
member is put, at any place and with any value, into a record of a text that is read. If it is not
known there, or the record has it already, then methods and configurations are refused as a
mismatch. If it is not known, mappings and documentations are read as before. -/
theorem members_put_in :
    (∀ text s, MethodSet.parse text = .ok s →
      ∀ (p : Place MethodSet.shape text) chars name v, p.Puts chars name v →
        p.layout.find? name = none ∨ p.Has name v →
        MethodSet.parse (p.insert chars) = .error (.invalid .mismatch)) ∧
    (∀ (l : Loader) text format l', Config.TextFormat.ofName? format = some .json →
      l.withText text format = .ok l' →
      ∀ (p : Place Config.shape text) chars name v, p.Puts chars name v →
        p.layout.find? name = none ∨ p.Has name v →
        l.withText (p.insert chars) format = .error (.invalidJson .mismatch)) ∧
    (∀ text m, Mapping.ofText text = .ok m →
      ∀ (p : Place Mapping.shape text) chars name v, p.Puts chars name v →
        p.layout.find? name = none → Mapping.ofText (p.insert chars) = .ok m) ∧
    (∀ text d, Documentation.ofText text = .ok d →
      ∀ (p : Place Documentation.shape text) chars name v, p.Puts chars name v →
        p.layout.find? name = none → Documentation.ofText (p.insert chars) = .ok d) :=
  ⟨fun _ _ hs _ _ _ _ h hname => MethodSet.parse_insert h hname hs,
    fun _ _ _ _ hformat hl _ _ _ _ h hname => Loader.withText_insert h hname hformat hl,
    fun _ _ hm _ _ _ _ h hname => Mapping.ofText_insert h hname hm,
    fun _ _ hd _ _ _ _ h hname => Documentation.ofText_insert h hname hd⟩

/-! ## Three places -/

section

attribute [local simp] tokens isSpace token stringToken scan Scanned.cons characters

/-- Behind the name of a tag. -/
def behindTagName : Place MethodSet.shape
    "\x7b\"methods\":[\x7b\"name\":\"m\",\"tags\":[\x7b\"name\":\"t\"\x7d]\x7d]\x7d" where
  before := "\x7b\"methods\":[\x7b\"name\":\"m\",\"tags\":[\x7b\"name\":\"t\"".toList
  behind := "\x7d]\x7d]\x7d".toList
  split := by decide +kernel
  expect := .commaOrEnd
  done := [(some "name", .string "t")]
  stack := [.items [], .members [(some "name", .string "m")] (some "tags"), .items [],
    .members [] (some "methods")]
  reached := by simp; rfl
  strict := true
  layout := .ofList [("name", .required, .text), ("text", .defaulted, .text)]
  due := rfl

theorem parse_tagged_method : MethodSet.parse
    "\x7b\"methods\":[\x7b\"name\":\"m\",\"tags\":[\x7b\"name\":\"t\"\x7d]\x7d]\x7d" =
    .ok { methods := [{ name := "m", tags := [⟨"t", ""⟩] }] } := by
  have htokens : tokens
      "\x7b\"methods\":[\x7b\"name\":\"m\",\"tags\":[\x7b\"name\":\"t\"\x7d]\x7d]\x7d".toList =
      [.openObject, .string "methods", .colon, .openArray, .openObject, .string "name", .colon,
        .string "m", .comma, .string "tags", .colon, .openArray, .openObject, .string "name",
        .colon, .string "t", .closeObject, .closeArray, .closeObject, .closeArray,
        .closeObject] := by simp
  unfold MethodSet.parse MethodSet.ofText Shape.read Document.ofText
  rw [htokens]
  rfl

theorem behindTagName_puts : behindTagName.Puts ",\"note\":null".toList "note" .null := by
  have hnew : tokens ",\"note\":null".toList = [.comma, .string "note", .colon, .null] := by
    simp [wordToken]
  have hbehind : tokens "\x7d]\x7d]\x7d".toList =
      [.closeObject, .closeArray, .closeObject, .closeArray, .closeObject] := by simp
  refine ⟨[.string "note", .colon, .null], ⟨[.null], rfl, rfl⟩, ?_⟩
  show Fitting _ .commaOrEnd (tokens "\x7d]\x7d]\x7d".toList).head? _
  rw [hnew, hbehind]
  exact .last

/-- In front of the host of a backend. -/
def inFrontOfHost : Place Config.shape "\x7b\"backend\":\x7b\"host\":\"h\"\x7d\x7d" where
  before := "\x7b\"backend\":\x7b".toList
  behind := "\"host\":\"h\"\x7d\x7d".toList
  split := by decide +kernel
  expect := .firstName
  done := []
  stack := [.members [] (some "backend")]
  reached := by simp; rfl
  strict := true
  layout := .ofList [("host", .nullable, .text), ("port", .nullable, portShape)]
  due := rfl

theorem tokens_backend : tokens "\x7b\"backend\":\x7b\"host\":\"h\"\x7d\x7d".toList =
    [.openObject, .string "backend", .colon, .openObject, .string "host", .colon, .string "h",
      .closeObject, .closeObject] := by simp

theorem withText_backend : Loader.withText {} "\x7b\"backend\":\x7b\"host\":\"h\"\x7d\x7d" "json" =
    .ok { config := { backendHost := some "h" } } := by
  have hformat : Config.TextFormat.ofName? "json" = some .json := by decide +kernel
  simp only [Loader.withText, hformat, Config.ofText, Config.ofJsonText, Shape.read,
    Document.ofText]
  rw [tokens_backend]
  rfl

theorem inFrontOfHost_puts :
    inFrontOfHost.Puts "\"host\":\"h\",".toList "host" (.string "h") := by
  have hnew : tokens "\"host\":\"h\",".toList =
      [.string "host", .colon, .string "h", .comma] := by simp
  have hbehind : tokens "\"host\":\"h\"\x7d\x7d".toList =
      [.string "host", .colon, .string "h", .closeObject, .closeObject] := by simp
  refine ⟨[.string "host", .colon, .string "h"], ⟨[.string "h"], rfl, rfl⟩, ?_⟩
  show Fitting _ .firstName (tokens "\"host\":\"h\"\x7d\x7d".toList).head? _
  rw [hnew, hbehind]
  exact .first "host"

theorem inFrontOfHost_has : inFrontOfHost.Has "host" (.string "h") := by
  refine ⟨.member (some "host") (.string "h") (.stop .closed), ?_, List.mem_cons_self⟩
  rw [Document.ofText, tokens_backend]
  rfl

/-- In front of the version of a documentation. -/
def inFrontOfVersion : Place Documentation.shape "\x7b\"version\":\"1\"\x7d" where
  before := "\x7b".toList
  behind := "\"version\":\"1\"\x7d".toList
  split := by decide +kernel
  expect := .firstName
  done := []
  stack := []
  reached := by simp; rfl
  strict := false
  layout := _
  due := rfl

theorem ofText_version : Documentation.ofText "\x7b\"version\":\"1\"\x7d" =
    .ok { version := "1", entries := [] } := by
  have htokens : tokens "\x7b\"version\":\"1\"\x7d".toList =
      [.openObject, .string "version", .colon, .string "1", .closeObject] := by simp
  unfold Documentation.ofText Shape.read Document.ofText
  rw [htokens]
  rfl

/-- The value is half of a surrogate pair in an array. -/
theorem inFrontOfVersion_puts : inFrontOfVersion.Puts "\"draft\":[\"\\ud800\"],".toList "draft"
    (.array (.item .unreadable (.stop .closed))) := by
  have hnew : tokens "\"draft\":[\"\\ud800\"],".toList =
      [.string "draft", .colon, .openArray, .unreadable true, .closeArray, .comma] := by
    simp [codeUnit?, hexValue?, isHigh]
  have hbehind : tokens "\"version\":\"1\"\x7d".toList =
      [.string "version", .colon, .string "1", .closeObject] := by simp
  refine ⟨[.string "draft", .colon, .openArray, .unreadable true, .closeArray],
    ⟨[.openArray, .unreadable true, .closeArray], rfl, rfl⟩, ?_⟩
  show Fitting _ .firstName (tokens "\"version\":\"1\"\x7d".toList).head? _
  rw [hnew, hbehind]
  exact .first "version"

/-- A tag with an unknown member, a backend that has its host twice, and a documentation with a
member whose value has no text. -/
theorem members_put_in_at_three_places :
    MethodSet.parse (behindTagName.insert ",\"note\":null".toList) = .error (.invalid .mismatch) ∧
      Loader.withText {} (inFrontOfHost.insert "\"host\":\"h\",".toList) "json" =
        .error (.invalidJson .mismatch) ∧
      Documentation.ofText (inFrontOfVersion.insert "\"draft\":[\"\\ud800\"],".toList) =
        .ok { version := "1", entries := [] } := by
  obtain ⟨hmethods, hconfig, -, hdocumentation⟩ := members_put_in
  have hnote : behindTagName.layout.find? "note" = none := by
    show (Layout.ofList _).find? "note" = none
    simp [Layout.ofList, Layout.find?]
  have hdraft : inFrontOfVersion.layout.find? "draft" = none := by
    show (Layout.ofList _).find? "draft" = none
    simp [Layout.ofList, Layout.find?]
  exact ⟨hmethods _ _ parse_tagged_method _ _ _ _ behindTagName_puts (.inl hnote),
    hconfig _ _ _ _ (by decide +kernel) withText_backend _ _ _ _ inFrontOfHost_puts
      (.inr inFrontOfHost_has),
    hdocumentation _ _ ofText_version _ _ _ _ inFrontOfVersion_puts hdraft⟩

end

end RouteMap
