import RouteMap.Proofs.Endpoint.Interference
import RouteMap.Proofs.Endpoint.Numbers
import RouteMap.Proofs.Endpoint.Parameters

/-!
# Tags that should give a number

The tags for the port of a backend, for the code of an exception and for the position in the
documentation should each give a number. One that does not is as good as absent: an index
and the same index without such tags are assembled to the same endpoint
(`assembleTags_sound`). Of what is set aside in this way the port and the codes are reported,
once and in the order of the tags (`unsound_as_absent`).
-/

namespace RouteMap

/-! ## Numeric tags -/

namespace Tag

/-- Whether a name is that of a tag for the code of an exception with a bare name. -/
def isCode (name : String) : Bool :=
  ((Text.after? Key.exceptions.toList name.toList).bind (Text.before? ".code".toList)).any
    fun exception => Endpoint.isBareName (String.ofList exception)

/-- The names of the tags that should give a number. -/
def Numeric (name : String) : Prop :=
  name = Key.backendPort ∨ name = Key.order ∨ isCode name = true

instance : DecidablePred Numeric := fun _ => inferInstanceAs (Decidable (_ ∨ _))

/-- Whether a tag gives a number if it should. -/
def isSound (name text : String) : Bool :=
  if name = Key.backendPort then (Text.port? (Text.trimmed text)).isSome
  else if Numeric name then (Text.int32? (Text.trimmed text)).isSome
  else true

theorem toList_code (exception : String) :
    (Key.code exception).toList = Key.exceptions.toList ++ exception.toList ++ ".code".toList := by
  simp only [Key.code, String.toList_append, List.append_assoc]
  rfl

theorem isCode_iff (name : String) :
    isCode name = true ↔ ∃ exception, Endpoint.isBareName exception = true ∧
      name = Key.code exception := by
  unfold isCode
  rw [Option.any_eq_true]
  constructor
  · rintro ⟨exception, hexception, hbare⟩
    obtain ⟨rest, hafter, hbefore⟩ := Option.bind_eq_some_iff.mp hexception
    refine ⟨String.ofList exception, hbare, String.toList_inj.mp ?_⟩
    rw [toList_code, String.toList_ofList, Text.eq_append_of_after? hafter,
      Text.eq_append_of_before? hbefore, List.append_assoc]
  · rintro ⟨exception, hbare, rfl⟩
    refine ⟨exception.toList,
      Option.bind_eq_some_iff.mpr ⟨exception.toList ++ ".code".toList, ?_, ?_⟩,
      by rwa [String.ofList_toList]⟩
    · rw [toList_code, List.append_assoc, Text.after?_append]
    · exact Text.before?_append _ _

/-- Names with a beginning that no numeric name has are not numeric. -/
theorem not_numeric_of_prefix {start name : String} (h : start.toList <+: name.toList)
    (hport : ¬ start.toList <+: Key.backendPort.toList)
    (horder : ¬ start.toList <+: Key.order.toList)
    (hcode : ¬ start.toList <+: Key.exceptions.toList ∧
      ¬ Key.exceptions.toList <+: start.toList) : ¬ Numeric name := by
  rintro (rfl | rfl | hname)
  · exact hport h
  · exact horder h
  · obtain ⟨exception, -, rfl⟩ := (isCode_iff name).mp hname
    rw [toList_code, List.append_assoc] at h
    rcases List.prefix_or_prefix_of_prefix h (List.prefix_append _ _) with hle | hle
    · exact hcode.1 hle
    · exact hcode.2 hle

/-- Of the names that begin as those for exceptions, only those for codes are numeric. -/
theorem numeric_iff_isCode {name : String} (h : Key.exceptions.toList <+: name.toList) :
    Numeric name ↔ isCode name = true := by
  constructor
  · rintro (rfl | rfl | hname)
    · exact absurd h (by decide)
    · exact absurd h (by decide)
    · exact hname
  · exact fun hname => .inr (.inr hname)

theorem exceptions_prefix_code (exception : String) :
    Key.exceptions.toList <+: (Key.code exception).toList := by
  rw [toList_code, List.append_assoc]
  exact List.prefix_append _ _

theorem isSound_of_ne {name : String} (hne : name ≠ Key.backendPort) (h : Numeric name)
    (text : String) : isSound name text = (Text.int32? (Text.trimmed text)).isSome := by
  rw [isSound, if_neg hne, if_pos h]

theorem isSound_of_not_numeric {name : String} (h : ¬ Numeric name) (text : String) :
    isSound name text = true := by
  rw [isSound, if_neg fun heq => h (.inl heq), if_neg h]

/-- The tags of an index without those that should give a number and do not. -/
def Index.sound (t : Index) : Index := t.filter isSound

/-- The text for the port of a backend is there if it is a port. -/
theorem Index.get?_backendPort_sound (t : Index) :
    t.sound.get? Key.backendPort = (t.get? Key.backendPort).filter
      fun text => (Text.port? (Text.trimmed text)).isSome :=
  t.get?_filter isSound Key.backendPort

/-- The text for the position in the documentation is there if it is an integer. -/
theorem Index.get?_order_sound (t : Index) :
    t.sound.get? Key.order = (t.get? Key.order).filter
      fun text => (Text.int32? (Text.trimmed text)).isSome :=
  t.get?_filter isSound Key.order

theorem Index.agreeOn_sound (t : Index) :
    Index.AgreeOn (fun name => ¬ Numeric name) t.sound t :=
  agreeOn_filter (fun _ text h => isSound_of_not_numeric h text) t

/-- What the gateway reads beside the backend is not numeric. -/
theorem not_numeric_of_forwards {name : String} (h : Forwards name) : ¬ Numeric name := by
  obtain ⟨hdocs, -, hport⟩ := h
  rintro (rfl | rfl | hcode)
  · exact hport rfl
  · exact hdocs (by decide)
  · obtain ⟨exception, -, rfl⟩ := (isCode_iff name).mp hcode
    have hstart : Key.docs.toList <+: Key.exceptions.toList := by decide
    exact hdocs (hstart.trans (exceptions_prefix_code exception))

/-- What describes an endpoint is not numeric. -/
theorem not_numeric_of_describes {name : String} (h : Describes name) : ¬ Numeric name := by
  obtain ⟨hdocs, horder, hexceptions⟩ := h
  rintro (rfl | rfl | hcode)
  · exact absurd hdocs (by decide)
  · exact horder rfl
  · obtain ⟨exception, -, rfl⟩ := (isCode_iff name).mp hcode
    exact hexceptions (exceptions_prefix_code exception)

end Tag

open Tag (Numeric Shared Forwards Describes)
open Tag.Index (AgreeOn)

/-- A value that cannot be read is as good as none. -/
theorem bind_filter_isSome {α β : Type} (read : α → Option β) (o : Option α) :
    (o.filter fun a => (read a).isSome).bind read = o.bind read := by
  cases o with
  | none => rfl
  | some a =>
    rw [Option.filter_some]
    cases h : read a <;> simp [h]

variable (s : Settings) (t : Tag.Index)

/-! ## Exceptions -/

namespace Endpoint

theorem not_numeric_exception {name : String} (h : isBareName name = true) :
    ¬ Numeric (Tag.Key.exceptions ++ name) := by
  have hstart : Tag.Key.exceptions.toList <+: (Tag.Key.exceptions ++ name).toList := by
    rw [String.toList_append]
    exact List.prefix_append _ _
  rw [Tag.numeric_iff_isCode hstart, Tag.isCode_iff]
  rintro ⟨exception, -, heq⟩
  -- the name would have the point of the suffix
  have hname := congrArg String.toList heq
  rw [Tag.toList_code, String.toList_append, List.append_assoc, List.append_cancel_left_eq] at hname
  apply not_mem_of_isBareName h
  rw [hname]
  exact List.mem_append_right _ (by decide)

/-- No tag that introduces an exception is missing among the sound ones. -/
theorem groups_exceptions_sound :
    groups t.sound Tag.Key.exceptions = groups t Tag.Key.exceptions := by
  refine groups_filter ?_ t
  intro name text hbare
  exact Tag.isSound_of_not_numeric (not_numeric_exception hbare) text

theorem codeText_sound {name : String} (h : isBareName name = true) :
    codeText t.sound name = (codeText t name).filter fun text => (codeOf text).isSome := by
  have hcanonical : Tag.canonicalName (Tag.Key.code name) = Tag.Key.code name :=
    Family.exceptions.canonicalName_refinement name (by decide)
  have hnumeric : Numeric (Tag.Key.code name) :=
    .inr (.inr ((Tag.isCode_iff _).mpr ⟨name, h, rfl⟩))
  have hne : Tag.Key.code name ≠ Tag.Key.backendPort := by
    intro heq
    have hstart := Tag.exceptions_prefix_code name
    rw [heq] at hstart
    exact absurd hstart (by decide)
  have hsound : Tag.isSound (Tag.Key.code name) = fun text => (codeOf text).isSome :=
    funext fun text => Tag.isSound_of_ne hne hnumeric text
  show (t.filter Tag.isSound).get? (Tag.Key.code name) = _
  rw [Tag.Index.get?_filter, hcanonical, hsound]
  rfl

theorem params_sound : params t.sound = params t := by
  refine params_filter t ?_
  intro name text hname
  exact Tag.isSound_of_not_numeric
    (Tag.not_numeric_of_prefix hname (by decide) (by decide) (by decide)) text

theorem results_sound : results t.sound = results t := by
  refine results_filter t ?_
  intro name text hname
  exact Tag.isSound_of_not_numeric
    (Tag.not_numeric_of_prefix hname (by decide) (by decide) (by decide)) text

theorem failures_sound : failures t.sound = failures t := by
  unfold failures
  rw [groups_exceptions_sound]
  apply List.map_congr_left
  rintro ⟨name, condition⟩ hgroup
  have hbare : isBareName name = true := (List.mem_filter.mp hgroup).2
  have hdescription : refinement t.sound Tag.Key.exceptions name "description" =
      refinement t Tag.Key.exceptions name "description" := by
    have hcanonical : Tag.canonicalName (Tag.Key.exceptions ++ name ++ "." ++ "description") =
        Tag.Key.exceptions ++ name ++ "." ++ "description" :=
      Family.exceptions.canonicalName_refinement name (by decide)
    apply t.agreeOn_sound
    rw [hcanonical, Tag.numeric_iff_isCode, Tag.isCode_iff]
    · rintro ⟨exception, -, heq⟩
      -- the two names end in different suffixes
      have hcode : ".code".toList <:+ (Tag.Key.code exception).toList := by
        rw [Tag.toList_code]
        exact List.suffix_append _ _
      have hother : "description".toList <:+ (Tag.Key.code exception).toList := by
        rw [← heq, String.toList_append]
        exact List.suffix_append _ _
      rcases List.suffix_or_suffix_of_suffix hcode hother with h | h
      · exact absurd h (by decide)
      · exact absurd h (by decide)
    · simp only [String.toList_append, List.append_assoc]
      exact List.prefix_append _ _
  have hcode : (codeText t.sound name).bind codeOf = (codeText t name).bind codeOf := by
    rw [codeText_sound t hbare, bind_filter_isSome]
  show Failure.mk _ _ _ _ = Failure.mk _ _ _ _
  rw [hdescription, hcode]

end Endpoint

/-! ## The two views -/

namespace Settings

theorem backend_sound : s.backend t.sound = s.backend t := by
  have hhost : t.sound.get? Tag.Key.backendHost = t.get? Tag.Key.backendHost :=
    t.agreeOn_sound _ (by decide)
  unfold backend
  rw [hhost, t.get?_backendPort_sound]
  cases t.get? Tag.Key.backendHost with
  | none => rfl
  | some host =>
    cases t.get? Tag.Key.backendPort with
    | none => rfl
    | some text =>
      rw [Option.filter_some]
      cases hnumber : Text.port? (Text.trimmed text) <;> simp [hnumber]

theorem orderOf_sound : Endpoint.orderOf (t.sound.get? Tag.Key.order) =
    Endpoint.orderOf (t.get? Tag.Key.order) := by
  unfold Endpoint.orderOf
  rw [t.get?_order_sound, bind_filter_isSome]

theorem authentication_sound : authentication t.sound = authentication t := by
  rw [authentication, authentication, t.agreeOn_sound Tag.Key.authentication (by decide)]

theorem routing_sound (external : String) (a : Option Authentication)
    (annotations : List Annotation) :
    s.routing external a t.sound annotations = s.routing external a t annotations :=
  routing_congr_of_backend (t.agreeOn_sound.mono fun _ => Tag.not_numeric_of_forwards)
    (s.backend_sound t) external a annotations

theorem guide_sound (external : String) (annotations : List Annotation) :
    s.guide external t.sound annotations = s.guide external t annotations := by
  have hforwards : AgreeOn Forwards t.sound t :=
    t.agreeOn_sound.mono fun _ => Tag.not_numeric_of_forwards
  have hdescribes : AgreeOn Describes t.sound t :=
    t.agreeOn_sound.mono fun _ => Tag.not_numeric_of_describes
  have h := guide_congr_of_order (s := s) rfl rfl (hforwards.mono fun _ => Tag.forwards_of_shared)
    hdescribes (orderOf_sound t) external annotations
  rwa [← Endpoint.params_sound, ← Endpoint.results_sound, ← Endpoint.failures_sound] at h

/-- Tags that should give a number and do not are as good as absent. -/
theorem assembleTags_sound (annotations : List Annotation) :
    s.assembleTags t.sound annotations = s.assembleTags t annotations := by
  have hexternal := t.agreeOn_sound Tag.Key.external (by decide)
  simp only [assembleTags, hexternal, authentication_sound t, routing_sound s t, guide_sound s t]

end Settings

/-! ## Reports -/

/-- What is reported of the port of an endpoint: its text, if there is a host to go with it and
the text is no port. -/
inductive PortReport (t : Tag.Index) (path : String) : List Log.Event → Prop
  | malformed {host text : String} (hasHost : t.get? Tag.Key.backendHost = some host)
      (hasPort : t.get? Tag.Key.backendPort = some text)
      (noPort : Text.port? (Text.trimmed text) = none) :
      PortReport t path [.portIgnored path text]
  | noHost (h : t.get? Tag.Key.backendHost = none) : PortReport t path []
  | noFault (h : ∀ text, t.get? Tag.Key.backendPort = some text →
      (Text.port? (Text.trimmed text)).isSome = true) : PortReport t path []

/-- A name is that of a tag for an exception, and the text of the tag for its code is no
integer. -/
structure FaultyCode (t : Tag.Index) (name exception text : String) : Prop where
  bare : Endpoint.isBareName exception = true
  tag : name = Tag.Key.exceptions ++ exception
  code : t.get? (Tag.Key.code exception) = some text
  noInteger : Text.int32? (Text.trimmed text) = none

/-- What is reported of the codes of exceptions: entry by entry, the text of each code that is
no integer. -/
inductive CodeReports (t : Tag.Index) (path : String) :
    List (String × String) → List Log.Event → Prop
  | nil : CodeReports t path [] []
  | report {entry : String × String} {exception text : String}
      {entries : List (String × String)} {events : List Log.Event}
      (fault : FaultyCode t entry.1 exception text) (rest : CodeReports t path entries events) :
      CodeReports t path (entry :: entries) (.codeIgnored path exception text :: events)
  | pass {entry : String × String} {entries : List (String × String)} {events : List Log.Event}
      (noFault : ∀ exception text, ¬ FaultyCode t entry.1 exception text)
      (rest : CodeReports t path entries events) : CodeReports t path (entry :: entries) events

namespace Settings

theorem portReport_ignoredPort (path : String) : PortReport t path (ignoredPort t path) := by
  unfold ignoredPort
  cases hhost : t.get? Tag.Key.backendHost with
  | none => exact .noHost hhost
  | some host =>
    cases hport : t.get? Tag.Key.backendPort with
    | none => exact .noFault fun text htext => by rw [hport] at htext; cases htext
    | some text =>
      cases hnumber : Text.port? (Text.trimmed text) with
      | none =>
        simp only [hnumber, Option.isNone_none, ↓reduceIte]
        exact .malformed hhost hport hnumber
      | some number =>
        simp only [hnumber, Option.isNone_some, Bool.false_eq_true, ↓reduceIte]
        refine .noFault fun text' htext' => ?_
        rw [hport, Option.some.injEq] at htext'
        rw [← htext', hnumber]
        rfl

theorem ignoredPort_sound (path : String) : ignoredPort t.sound path = [] := by
  generalize hevents : ignoredPort t.sound path = events
  have hreport : PortReport t.sound path events := hevents ▸ portReport_ignoredPort t.sound path
  cases hreport with
  | malformed _ hasPort noPort =>
    -- a text that is still there is that of a port
    rw [t.get?_backendPort_sound, Option.filter_eq_some_iff, noPort] at hasPort
    exact absurd hasPort.2 (by simp)
  | noHost _ => rfl
  | noFault _ => rfl

end Settings

namespace Endpoint

/-- The report about the code of the exception that an entry introduces, if there is one. -/
def codeReport? (t : Tag.Index) (path : String) (entry : String × String) : Option Log.Event :=
  match Text.after? Tag.Key.exceptions.toList entry.1.toList with
  | none => none
  | some rest =>
    if isBareName (String.ofList rest) then
      match codeText t (String.ofList rest) with
      | some text =>
        if (codeOf text).isNone then some (.codeIgnored path (String.ofList rest) text) else none
      | none => none
    else none

/-- The codes are reported entry by entry. -/
theorem ignoredCodes_eq (path : String) :
    ignoredCodes t path = t.entries.filterMap (codeReport? t path) := by
  unfold ignoredCodes groups Tag.Index.below
  rw [List.filter_filterMap, List.filterMap_filterMap]
  apply List.filterMap_congr
  rintro ⟨name, condition⟩ -
  unfold codeReport?
  cases hafter : Text.after? Tag.Key.exceptions.toList name.toList with
  | none => simp [hafter]
  | some rest =>
    simp only [hafter, Option.map_some, Option.filter_some]
    by_cases hbare : isBareName (String.ofList rest) = true
    · rw [if_pos hbare, if_pos hbare]
      rfl
    · rw [if_neg hbare, if_neg hbare]
      rfl

theorem codeReport?_of_fault {path : String} {entry : String × String} {exception text : String}
    (h : FaultyCode t entry.1 exception text) :
    codeReport? t path entry = some (.codeIgnored path exception text) := by
  have hafter : Text.after? Tag.Key.exceptions.toList entry.1.toList = some exception.toList := by
    rw [h.tag, String.toList_append, Text.after?_append]
  have hcode : codeText t exception = some text := h.code
  have hnone : (codeOf text).isNone = true := Option.isNone_iff_eq_none.mpr h.noInteger
  unfold codeReport?
  simp only [hafter, String.ofList_toList, h.bare, hcode, hnone, ↓reduceIte]

theorem fault_of_codeReport? {path : String} {entry : String × String} {event : Log.Event}
    (h : codeReport? t path entry = some event) :
    ∃ exception text, FaultyCode t entry.1 exception text := by
  unfold codeReport? at h
  split at h
  · cases h
  · next rest hafter =>
    split at h
    · next hbare =>
      split at h
      · next text hcode =>
        split at h
        · next hnone =>
          refine ⟨String.ofList rest, text, hbare, ?_, hcode, Option.isNone_iff_eq_none.mp hnone⟩
          rw [← String.toList_inj, String.toList_append, String.toList_ofList]
          exact Text.eq_append_of_after? hafter
        · cases h
      · cases h
    · cases h

theorem codeReports_ignoredCodes (path : String) :
    CodeReports t path t.entries (ignoredCodes t path) := by
  rw [ignoredCodes_eq]
  induction t.entries with
  | nil => exact .nil
  | cons entry entries ih =>
    by_cases hfault : ∃ exception text, FaultyCode t entry.1 exception text
    · obtain ⟨exception, text, hfault⟩ := hfault
      rw [List.filterMap_cons_some (codeReport?_of_fault t hfault)]
      exact .report hfault ih
    · have hnone : codeReport? t path entry = none := by
        rw [Option.eq_none_iff_forall_ne_some]
        exact fun event hevent => hfault (fault_of_codeReport? t hevent)
      rw [List.filterMap_cons_none hnone]
      exact .pass (fun exception text h => hfault ⟨exception, text, h⟩) ih

theorem ignoredCodes_sound (path : String) : ignoredCodes t.sound path = [] := by
  rw [ignoredCodes_eq, List.filterMap_eq_nil_iff]
  intro entry _
  rw [Option.eq_none_iff_forall_ne_some]
  intro event hevent
  obtain ⟨exception, text, hfault⟩ := fault_of_codeReport? t.sound hevent
  have hcode : codeText t.sound exception = some text := hfault.code
  rw [codeText_sound t hfault.bare, Option.filter_eq_some_iff] at hcode
  -- a text that is still there is that of an integer
  rw [codeOf, hfault.noInteger] at hcode
  exact absurd hcode.2 (by simp)

end Endpoint

namespace Settings

theorem warnings_sound : s.warnings t.sound = [] := by
  unfold warnings
  cases t.sound.get? Tag.Key.external with
  | none => rfl
  | some external =>
    cases authentication t.sound with
    | error cause => rfl
    | ok a =>
      show ignoredPort t.sound _ ++ Endpoint.ignoredCodes t.sound _ = []
      rw [ignoredPort_sound, Endpoint.ignoredCodes_sound]
      rfl

/-- **A tag that should give a number and does not is as good as absent, and is reported once.**
An index and its sound tags come to the same endpoint, the same error or nothing. For an
endpoint the port is reported first and then the codes in the order of the tags, each with the
path of the endpoint and the text as it stands; of the sound tags, and of what is no endpoint,
nothing is reported. -/
theorem unsound_as_absent (annotations : List Annotation) :
    s.assembleTags t annotations = s.assembleTags t.sound annotations ∧
      s.warnings t.sound = [] ∧
      ((∃ e external portReports codeReports,
          s.assembleTags t annotations = .ok (some e) ∧
          t.get? Tag.Key.external = some external ∧
          s.warnings t = portReports ++ codeReports ∧
          PortReport t ("/" ++ s.version ++ Text.trimmed external) portReports ∧
          CodeReports t ("/" ++ s.version ++ Text.trimmed external) t.entries codeReports) ∨
        (s.assembleTags t annotations = .ok none ∨
          ∃ cause, s.assembleTags t annotations = .error cause) ∧ s.warnings t = []) := by
  refine ⟨(s.assembleTags_sound t annotations).symm, s.warnings_sound t, ?_⟩
  unfold assembleTags warnings
  cases hexternal : t.get? Tag.Key.external with
  | none => exact .inr ⟨.inl rfl, rfl⟩
  | some external =>
    cases authentication t with
    | error cause => exact .inr ⟨.inr ⟨cause, rfl⟩, rfl⟩
    | ok a =>
      exact .inl ⟨_, external, _, _, rfl, rfl, rfl, portReport_ignoredPort t _,
        Endpoint.codeReports_ignoredCodes t _⟩

/-- A code without its exception and a port without a host are set aside without a report. -/
example :
    ({ version := "v1" } : Settings).warnings (.ofTags
      [⟨"apifest.external", " /users"⟩, ⟨"apifest.backend.port", "65536"⟩,
       ⟨"apifest.docs.exceptions.gone.code", "4 10"⟩, ⟨"apifest.docs.exceptions.lost", "Gone"⟩,
       ⟨"apifest.docs.exceptions.lost.code", " none"⟩, ⟨"apifest.docs.order", "first"⟩]) =
      [.codeIgnored "/v1/users" "lost" " none"] := by
  decide +kernel

end Settings

end RouteMap
