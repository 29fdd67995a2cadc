import RouteMap.Document.Documentation
import RouteMap.Proofs.Json.Fields

/-!
# Documents are read back

The two documents are written for programs that read them again. Each record has its
JSON form in the canonical form of its shape, and the record is found in this form field
by field; so a document that was written is read back as it was.
-/

namespace RouteMap

attribute [local simp] List.lookup_append Table.lookup_cons

namespace Mapping

/-! ## The routing mapping -/

theorem canonical_verb (depth : Nat) (v : Verb) :
    Json.Canonical depth verbShape (.string v.name) := by
  refine .choice (List.mem_map_of_mem ?_)
  cases v <;> decide

theorem canonical_authentication (depth : Nat) (a : Authentication) :
    Json.Canonical depth authenticationShape (.string a.name) := by
  refine .choice (List.mem_map_of_mem ?_)
  cases a <;> decide

/-- A class is named in a record of its own. -/
theorem canonical_className (depth : Nat) (field name : String) :
    Json.Canonical (depth + 1) (.record false (.ofList [(field, .required, .text)]))
      (.object [(field, .string name)]) :=
  .record (List.nodup_singleton field) (.present (.text name) .nil)

theorem Route.canonical_toJson (depth : Nat) (r : Route) :
    Json.Canonical (depth + 2) Route.shape r.toJson := by
  unfold Route.toJson
  simp only [List.append_assoc, List.cons_append, List.nil_append]
  refine .record (by decide) (.present (.text _) ?_)
  refine .optional .text r.target (by decide) ?_
  refine .optional (canonical_verb _) r.verb (by decide) ?_
  refine .optional (canonical_authentication _) r.authentication (by decide) ?_
  refine .optional .text r.scope (by decide) ?_
  refine .optional .text r.variableNames (by decide) ?_
  refine .optional .text r.variableExpressions (by decide) ?_
  refine .optional .text r.backendHost (by decide) ?_
  refine .optional (Json.canonical_port _) r.backendPort (by decide) ?_
  refine .optional (canonical_className _ _) r.action (by decide) ?_
  refine .optional (canonical_className _ _) r.filter (by decide) ?_
  refine .textTable r.properties (by decide) ?_
  exact .present (.flag _) .nil

theorem className?_of_field? {j : Json} {field name : String} {o : Option String}
    (h : j.field? field = o.map fun c => .object [(name, .string c)]) :
    className? j field name = o := by
  unfold className?
  rw [h]
  cases o with
  | none => rfl
  | some c => simp [Json.text?]

/-- Every field of a route is found in its JSON form. -/
theorem Route.ofJson?_toJson (r : Route) : Route.ofJson? r.toJson = some r := by
  have hverb : (r.toJson.text? "method").bind Verb.ofName? = r.verb :=
    Json.named?_of_field? Verb.ofName?_name (by simp [Route.toJson])
  have hauthentication :
      (r.toJson.text? "authType").bind Authentication.ofName? = r.authentication :=
    Json.named?_of_field? Authentication.ofName?_name (by simp [Route.toJson])
  have hport : r.toJson.port? "backendPort" = r.backendPort :=
    Json.port?_of_field? (by simp [Route.toJson])
  have haction : className? r.toJson "action" "actionClassName" = r.action :=
    className?_of_field? (by simp [Route.toJson])
  have hfilter : className? r.toJson "filters" "filterClassName" = r.filter :=
    className?_of_field? (by simp [Route.toJson])
  have hproperties : r.toJson.textTable? "customProperties" = some r.properties :=
    Json.textTable?_of_field? (by simp [Route.toJson])
  unfold Route.ofJson?
  rw [hverb, hauthentication, hport, haction, hfilter, hproperties]
  simp [Route.toJson, Json.text?, Json.flag?]

theorem canonical_toJson (depth : Nat) (m : Mapping) :
    Json.Canonical (depth + 4) shape m.toJson := by
  refine .record (by decide) (.present (.text _) (.present ?_ (.present ?_ .nil)))
  · exact .record (by decide) (.present (.text _) (.present (Json.canonical_port _ _) .nil))
  · exact .list_map (Route.canonical_toJson depth) m.routes

theorem ofJson?_toJson (m : Mapping) : ofJson? m.toJson = some m := by
  have hroutes : (m.toJson.items "endpoints").mapM Route.ofJson? = some m.routes :=
    Json.items_of_field? Route.ofJson?_toJson (by simp [toJson])
  have hport : (Json.object [("host", .string m.host), ("port", Json.port m.port)]).port? "port" =
      some m.port := Json.port?_of_field? (by simp)
  unfold ofJson?
  rw [hroutes]
  simp [toJson, Json.text?, hport]

/-- **A mapping is read back as it was written.** -/
theorem ofText_text (m : Mapping) : ofText m.text = .ok m := by
  -- a mapping has four containers inside each other, far below what a reader allows
  have hread : shape.read m.text = .ok m.toJson :=
    Json.Canonical.read_prettyText (m.canonical_toJson 123)
  exact Json.Shape.read_bind_eq_ok hread m.ofJson?_toJson

end Mapping

/-! ## The documentation -/

namespace Documentation

/-- The fields that parameters and results have in common, in front of others. -/
theorem fits_fieldJson {depth : Nat} (f : Endpoint.Field)
    {layout : List (String × Json.Presence × Json.Shape)} {fs : List (String × Json)}
    (hfs : Json.Fits depth (.ofList layout) fs) :
    Json.Fits depth (.ofList (fieldLayout ++ layout)) (fieldJson f ++ fs) := by
  unfold fieldJson
  simp only [List.append_assoc, List.cons_append, List.nil_append]
  refine .present (.text _) ?_
  refine .optional .text f.type (by decide) ?_
  exact .present (.text _) (.present (.flag _) hfs)

theorem canonical_parameterJson (depth : Nat) (p : Endpoint.Parameter) :
    Json.Canonical (depth + 1)
      (.record false (.ofList (fieldLayout ++ [("exampleValue", .nullable, .text)])))
      (parameterJson p) := by
  refine .record (by decide) (fits_fieldJson p.toField ?_)
  rw [← List.append_nil (Json.optionalField _ _)]
  exact .optional .text p.exampleValue (by decide) .nil

theorem canonical_fieldJson (depth : Nat) (f : Endpoint.Field) :
    Json.Canonical (depth + 1) (.record false (.ofList fieldLayout)) (.object (fieldJson f)) := by
  refine .record (by decide) ?_
  have h : Json.Fits depth (.ofList (fieldLayout ++ [])) (fieldJson f ++ []) :=
    fits_fieldJson f .nil
  rwa [List.append_nil, List.append_nil] at h

theorem canonical_failureJson (depth : Nat) (f : Endpoint.Failure) :
    Json.Canonical (depth + 1) (.record false (.ofList
      [("name", .required, .text), ("condition", .required, .text),
       ("description", .nullable, .text), ("code", .nullable, Json.int32Shape)]))
      (failureJson f) := by
  unfold failureJson
  rw [← List.append_nil (_ ++ _)]
  simp only [List.append_assoc, List.cons_append, List.nil_append]
  refine .record (by decide) (.present (.text _) (.present (.text _) ?_))
  refine .optional .text f.description (by decide) ?_
  exact .optional (Json.canonical_int32 _) f.code (by decide) .nil

theorem Entry.canonical_toJson (depth : Nat) (e : Entry) :
    Json.Canonical (depth + 3) Entry.shape e.toJson := by
  unfold Entry.toJson
  -- nothing stands behind the last field
  rw [← List.append_nil (_ ++ _)]
  simp only [List.append_assoc, List.cons_append, List.nil_append]
  refine .record (by decide) (.present (.text _) ?_)
  refine .optional (Mapping.canonical_verb _) e.verb (by decide) ?_
  refine .optional .text e.scope (by decide) ?_
  refine .optional .text e.group (by decide) ?_
  refine .optional .text e.summary (by decide) ?_
  refine .optional .text e.description (by decide) ?_
  refine .optional .text e.exampleRequest (by decide) ?_
  refine .optional .text e.exampleResult (by decide) ?_
  refine .optional .text e.paramsDescription (by decide) ?_
  refine .optional .text e.resultsDescription (by decide) ?_
  refine .present (.list_map (canonical_parameterJson depth) e.params) ?_
  refine .present (.list_map (canonical_fieldJson depth) e.results) ?_
  refine .present (.list_map (canonical_failureJson depth) e.failures) ?_
  refine .present (Json.canonical_int32 _ _) (.present (.flag _) ?_)
  refine .optional .text e.variableNames (by decide) ?_
  refine .optional .text e.variableExpressions (by decide) ?_
  exact .textTable e.properties (by decide) .nil

theorem canonical_toJson (depth : Nat) (d : Documentation) :
    Json.Canonical (depth + 5) shape d.toJson :=
  .record (by decide) (.present (.text _)
    (.present (.list_map (Entry.canonical_toJson depth) d.entries) .nil))

/-- A field of a parameter or result is found in front of others, none of which is taken
for its type. -/
theorem field?_fieldJson (f : Endpoint.Field) (fs : List (String × Json))
    (h : fs.lookup "type" = none) : field? (.object (fieldJson f ++ fs)) = some f := by
  unfold field? fieldJson
  simp [Json.text?, Json.flag?, h]

theorem parameter?_parameterJson (p : Endpoint.Parameter) :
    parameter? (parameterJson p) = some p := by
  have hfield : field? (parameterJson p) = some p.toField :=
    field?_fieldJson p.toField _ (by simp)
  unfold parameter?
  rw [hfield]
  simp [parameterJson, fieldJson, Json.text?]

theorem failure?_failureJson (f : Endpoint.Failure) : failure? (failureJson f) = some f := by
  have hcode : (failureJson f).int32? "code" = f.code :=
    Json.int32?_of_field? (by simp [failureJson])
  unfold failure?
  rw [hcode]
  simp [failureJson, Json.text?]

/-- Every field of an entry is found in its JSON form. -/
theorem Entry.ofJson?_toJson (e : Entry) : Entry.ofJson? e.toJson = some e := by
  have hverb : (e.toJson.text? "method").bind Verb.ofName? = e.verb :=
    Json.named?_of_field? Verb.ofName?_name (by simp [Entry.toJson])
  have hparams : (e.toJson.items "requestParams").mapM parameter? = some e.params :=
    Json.items_of_field? parameter?_parameterJson (by simp [Entry.toJson])
  have hresult : ∀ f, field? (.object (fieldJson f)) = some f := fun f => by
    simpa using field?_fieldJson f [] rfl
  have hresults : (e.toJson.items "resultParams").mapM field? = some e.results :=
    Json.items_of_field? hresult (by simp [Entry.toJson])
  have hfailures : (e.toJson.items "exceptions").mapM failure? = some e.failures :=
    Json.items_of_field? failure?_failureJson (by simp [Entry.toJson])
  have horder : e.toJson.int32? "order" = some e.order :=
    Json.int32?_of_field? (by simp [Entry.toJson])
  have hproperties : e.toJson.textTable? "customProperties" = some e.properties :=
    Json.textTable?_of_field? (by simp [Entry.toJson])
  unfold Entry.ofJson?
  rw [hverb, hparams, hresults, hfailures, horder, hproperties]
  simp [Entry.toJson, Json.text?, Json.flag?]

theorem ofJson?_toJson (d : Documentation) : ofJson? d.toJson = some d := by
  have hentries : (d.toJson.items "endpoints").mapM Entry.ofJson? = some d.entries :=
    Json.items_of_field? Entry.ofJson?_toJson (by simp [toJson])
  unfold ofJson?
  rw [hentries]
  simp [toJson, Json.text?]

/-- **A documentation is read back as it was written.** -/
theorem ofText_text (d : Documentation) : ofText d.text = .ok d := by
  have hread : shape.read d.text = .ok d.toJson :=
    Json.Canonical.read_prettyText (d.canonical_toJson 122)
  exact Json.Shape.read_bind_eq_ok hread d.ofJson?_toJson

end Documentation

/-! ## Both documents -/

/-- **Documents are read back without loss.** Whatever a mapping or a documentation holds,
its text is read as the value itself; so a reader of a text that was rendered for some
endpoints has exactly the document of these endpoints. -/
theorem documents_read_back :
    (∀ m : Mapping, Mapping.ofText m.text = .ok m) ∧
    (∀ d : Documentation, Documentation.ofText d.text = .ok d) ∧
    (∀ (h : Mapping.Heading) (es : List Endpoint),
      (Mapping.render h es).map Mapping.ofText = (Mapping.ofEndpoints h es).map .ok) ∧
    (∀ (version : Option String) (es : List Endpoint),
      (Documentation.render version es).map Documentation.ofText =
        (Documentation.ofEndpoints version es).map .ok) := by
  refine ⟨Mapping.ofText_text, Documentation.ofText_text, ?_, ?_⟩
  · intro h es
    unfold Mapping.render
    cases Mapping.ofEndpoints h es with
    | error e => rfl
    | ok m => exact congrArg Except.ok m.ofText_text
  · intro version es
    unfold Documentation.render
    cases Documentation.ofEndpoints version es with
    | error e => rfl
    | ok d => exact congrArg Except.ok d.ofText_text

end RouteMap
