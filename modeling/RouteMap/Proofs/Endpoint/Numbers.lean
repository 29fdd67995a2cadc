import RouteMap.Endpoint.Assembly
import RouteMap.Proofs.Config.Variables
import RouteMap.Proofs.Text.Numeral

/-!
# Numbers in tags and variables

Four places read a number in a text: the position of an endpoint, the status code of an exception,
the port of an endpoint's own backend and the variable for the port of the run. Each says what it
makes of a number and what of a text that is none; which texts are numbers is the same for all of
them (`numbers_read_exactly`).
-/

namespace RouteMap

open Text

/-! ## The places -/

/-- The name of the tag for the code of an exception. -/
def Tag.Key.code (exception : String) : String := exceptions ++ exception ++ "." ++ "code"

namespace Endpoint

theorem orderOf_some (text : String) :
    orderOf (some text) = (int32? (trimmed text)).getD lastOrder := by
  rw [orderOf, Option.bind_some]

theorem code_of_mem_failures {tags : Tag.Index} {f : Failure} {text : String}
    (h : f ∈ failures tags) (htext : tags.get? (Tag.Key.code f.name) = some text) :
    f.code = int32? (trimmed text) := by
  obtain ⟨⟨name, condition⟩, -, rfl⟩ := List.mem_map.mp h
  have hcode : codeText tags name = some text := htext
  simp only [hcode, Option.bind_some, codeOf]

end Endpoint

/-- The tags give a backend a host, and a text for its port. -/
def Tag.Index.GivesBackend (tags : Tag.Index) (host text : String) : Prop :=
  tags.get? Tag.Key.backendHost = some host ∧ tags.get? Tag.Key.backendPort = some text

theorem Tag.Index.GivesBackend.backend {tags : Tag.Index} {host text : String}
    (h : tags.GivesBackend host text) (s : Settings) :
    s.backend tags = (port? (trimmed text)).elim (s.backendHost, s.backendPort)
      fun p => (some host, some p) := by
  simp only [Settings.backend, h.1, h.2]
  cases port? (trimmed text) <;> rfl

namespace Config

theorem isEmpty_trimmed_iff (text : String) :
    (trimmed text).isEmpty = true ↔ Blank text.toList := by
  rw [String.isEmpty_iff, ← String.toList_eq_nil_iff, toList_trimmed]
  constructor
  · intro h
    obtain ⟨p, hp⟩ := exists_around_trimmed text
    rw [← hp, Padding.around, String.toList_ofList, toList_trimmed, h, List.append_nil]
    exact Blank.append (List.all_eq_true.mp p.blank_before) (List.all_eq_true.mp p.blank_after)
  · exact trim_of_blank

/-- The variable of the port belongs to the port, whatever the start of its name is. -/
theorem override_backendPort (start : String) (c : Config) (text : String) :
    override start c (Field.variableName start .backendPort) text =
      ((portOf text).map fun p => { c with backendPort := p }).mapError
        (.invalidVariable (Field.variableName start .backendPort)) := by
  rw [override, Field.named_eq_some_iff.mpr rfl]
  rfl

theorem portOf_of_blank {text : String} (h : Blank text.toList) : portOf text = .ok none := by
  rw [portOf, if_pos ((isEmpty_trimmed_iff text).mpr h)]

theorem not_blank_of_port? {text : String} {p : UInt16} (h : port? (trimmed text) = some p) :
    ¬ Blank text.toList := by
  intro hblank
  rw [trimmed, trim_of_blank hblank] at h
  cases h

theorem portOf_of_not_blank {text : String} (h : ¬ Blank text.toList) :
    portOf text = (port? (trimmed text)).elim (.error .port) fun p => .ok (some p) := by
  rw [portOf, if_neg (mt (isEmpty_trimmed_iff text).mp h)]

end Config

/-! ## All places -/

/-- **Numbers are read exactly.** A text that writes a 32-bit integer is this position and this
status code; every other text is the last position and no status code. A text that writes a 16-bit
number without a minus sign is this port, in a tag beside one for the host as in a variable; every
other text leaves the backend of the run in place, and as a variable it is refused unless it is
blank, which stands for no port. -/
theorem numbers_read_exactly :
    (∀ text, ∀ n : Int32, Writes text n.toInt →
      Endpoint.orderOf (some text) = n ∧
      ∀ tags, ∀ f ∈ Endpoint.failures tags, tags.get? (Tag.Key.code f.name) = some text →
        f.code = some n) ∧
    (∀ text, (∀ n : Int32, ¬ Writes text n.toInt) →
      Endpoint.orderOf (some text) = Endpoint.lastOrder ∧
      ∀ tags, ∀ f ∈ Endpoint.failures tags, tags.get? (Tag.Key.code f.name) = some text →
        f.code = none) ∧
    (∀ text, ∀ p : UInt16, WritesUnsigned text p.toNat →
      (∀ (s : Settings) (tags : Tag.Index) host, tags.GivesBackend host text →
        s.backend tags = (some host, some p)) ∧
      ∀ start c, Config.override start c (Config.Field.variableName start .backendPort) text =
        .ok { c with backendPort := some p }) ∧
    (∀ text, (∀ p : UInt16, ¬ WritesUnsigned text p.toNat) →
      (∀ (s : Settings) (tags : Tag.Index) host, tags.GivesBackend host text →
        s.backend tags = (s.backendHost, s.backendPort)) ∧
      ∀ start c,
        (Blank text.toList →
          Config.override start c (Config.Field.variableName start .backendPort) text =
            .ok { c with backendPort := none }) ∧
        (¬ Blank text.toList →
          Config.override start c (Config.Field.variableName start .backendPort) text =
            .error (.invalidVariable (Config.Field.variableName start .backendPort) .port))) := by
  refine ⟨fun text n h => ?_, fun text h => ?_, fun text p h => ?_, fun text h => ?_⟩
  · have hread : int32? (trimmed text) = some n := int32?_trimmed_eq_some_iff.mpr h
    refine ⟨?_, fun tags f hf htext => ?_⟩
    · rw [Endpoint.orderOf_some, hread, Option.getD_some]
    · rw [Endpoint.code_of_mem_failures hf htext, hread]
  · have hread : int32? (trimmed text) = none :=
      Option.eq_none_iff_forall_ne_some.mpr fun n hn => h n (int32?_trimmed_eq_some_iff.mp hn)
    refine ⟨?_, fun tags f hf htext => ?_⟩
    · rw [Endpoint.orderOf_some, hread, Option.getD_none]
    · rw [Endpoint.code_of_mem_failures hf htext, hread]
  · have hread : port? (trimmed text) = some p := port?_trimmed_eq_some_iff.mpr h
    refine ⟨fun s tags host hbackend => ?_, fun start c => ?_⟩
    · rw [hbackend.backend s, hread, Option.elim_some]
    · rw [Config.override_backendPort, Config.portOf_of_not_blank (Config.not_blank_of_port? hread),
        hread]
      rfl
  · have hread : port? (trimmed text) = none :=
      Option.eq_none_iff_forall_ne_some.mpr fun p hp => h p (port?_trimmed_eq_some_iff.mp hp)
    refine ⟨fun s tags host hbackend => ?_, fun start c => ⟨fun hblank => ?_, fun hblank => ?_⟩⟩
    · rw [hbackend.backend s, hread, Option.elim_none]
    · rw [Config.override_backendPort, Config.portOf_of_blank hblank]
      rfl
    · rw [Config.override_backendPort, Config.portOf_of_not_blank hblank, hread]
      rfl

/-- The tags of an exception with a text for its code. -/
def gone (code : String) : Tag.Index :=
  .ofTags [⟨"apifest.docs.exceptions.Gone", "moved"⟩, ⟨"apifest.docs.exceptions.Gone.code", code⟩]

/-- There is one exception, and its code is what the tag for it gives. -/
theorem map_code_gone (text : String) {code : Option Int32}
    (htext : (gone text).get? (Tag.Key.code "Gone") = some text)
    (hone : (Endpoint.failures (gone text)).map (·.name) = ["Gone"])
    (h : ∀ f ∈ Endpoint.failures (gone text),
      (gone text).get? (Tag.Key.code f.name) = some text → f.code = code) :
    (Endpoint.failures (gone text)).map (·.code) = [code] := by
  obtain ⟨f, rest, hfailures, hname, hrest⟩ := List.map_eq_cons_iff.mp hone
  obtain rfl := List.map_eq_nil_iff.mp hrest
  rw [hfailures] at h ⊢
  have hcode : (gone text).get? (Tag.Key.code f.name) = some text := by
    rw [hname]
    exact htext
  rw [List.map_singleton, h f List.mem_cons_self hcode]

/-- The least 32-bit integer and the greatest port, each beside the next number beyond it. -/
theorem numbers_read_exactly_at_limits :
    Endpoint.orderOf (some "\u3000-002147483648\r\n") = Int32.minValue ∧
      Endpoint.orderOf (some "-2147483649") = Endpoint.lastOrder ∧
      (Endpoint.failures (gone "\u3000-002147483648\r\n")).map (·.code) = [some Int32.minValue] ∧
      (Endpoint.failures (gone "-2147483649")).map (·.code) = [none] ∧
      (∀ (s : Settings) (tags : Tag.Index), tags.GivesBackend "api" " +65535" →
        s.backend tags = (some "api", some 65535)) ∧
      Config.override "A" {} "A__BACKEND__PORT" "65536" =
        .error (.invalidVariable "A__BACKEND__PORT" .port) := by
  obtain ⟨hinteger, hnone, hport, hrefused⟩ := numbers_read_exactly
  have hwrites : Writes "\u3000-002147483648\r\n" Int32.minValue.toInt :=
    ⟨{ padding := { before := ['\u3000'], after := ['\r', '\n'] }, sign := .minus, zeros := 2
       value := -2147483648, fits := (by decide : (-2147483648 : Int) ≤ 0) },
      by decide +kernel, by decide⟩
  have hbeyond : ∀ n : Int32, ¬ Writes "-2147483649" n.toInt := by
    intro n hn
    have hread : int32? (trimmed "-2147483649") = none := by decide +kernel
    rw [int32?_trimmed_eq_some_iff.mpr hn] at hread
    cases hread
  have hgreatest : WritesUnsigned " +65535" (65535 : UInt16).toNat :=
    ⟨{ padding := { before := [' '] }, sign := .plus, value := 65535,
       fits := (by decide : (0 : Int) ≤ 65535) },
      by decide, by decide +kernel, by decide⟩
  have htoo : ∀ p : UInt16, ¬ WritesUnsigned "65536" p.toNat := by
    intro p hp
    have hread : port? (trimmed "65536") = none := by decide +kernel
    rw [port?_trimmed_eq_some_iff.mpr hp] at hread
    cases hread
  have hdigits : ¬ Blank "65536".toList := by
    intro hblank
    exact absurd (hblank '6' (by decide)) (by decide)
  refine ⟨(hinteger _ _ hwrites).1, (hnone _ hbeyond).1, ?_, ?_,
    fun s tags => (hport _ _ hgreatest).1 s tags _, ((hrefused _ htoo).2 "A" {}).2 hdigits⟩
  · refine map_code_gone _ (by decide +kernel) (by decide +kernel) ?_
    exact (hinteger _ _ hwrites).2 (gone _)
  · refine map_code_gone _ (by decide +kernel) (by decide +kernel) ?_
    exact (hnone _ hbeyond).2 (gone _)

end RouteMap
