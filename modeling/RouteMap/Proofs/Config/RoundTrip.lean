import RouteMap.Config.Loader
import RouteMap.Proofs.Annotation.Registry
import RouteMap.Proofs.Config.Outputs
import RouteMap.Proofs.Json.Compact

/-!
# Configurations that were written

A configuration is written with a null for every absent value, and read without them. The
text is loaded as the configuration itself (`loads_back`), if the registry of annotations
was built by the operations on registries: the table in which it is written can only tell
such registries apart.
-/

namespace RouteMap

theorem Log.Format.ofName?_name (f : Log.Format) : ofName? f.name = some f := by
  cases f <;> decide

namespace Config

attribute [local simp] List.lookup_append Table.lookup_cons

theorem reads_text {depth : Nat} {name : String} {layout : Json.Layout}
    {fs ws : List (String × Json)} (t : Option String) (hfs : Json.Reads depth layout fs ws) :
    Json.Reads depth (.field name .nullable .text layout) ((name, textJson t) :: fs)
      ((name, textJson t) :: ws) :=
  .nullable .text t hfs

@[simp] theorem withoutNulls_text (name : String) (t : Option String) (fs : List (String × Json)) :
    Json.withoutNulls ((name, textJson t) :: fs) =
      Json.optionalField name (t.map .string) ++ Json.withoutNulls fs :=
  Json.withoutNulls_nullable (f := Json.string) nofun t

theorem exact_text (t : Option String) : Json.Exact (textJson t) :=
  Json.exact_nullable (f := Json.string) (fun _ => trivial) t

theorem canonical_output (depth : Nat) (o : Output) :
    Json.Canonical depth (.choice (Output.all.map Output.name)) (.string o.name) := by
  refine .choice (List.mem_map_of_mem ?_)
  cases o <;> decide

theorem canonical_format (depth : Nat) (f : Log.Format) :
    Json.Canonical depth (.choice (Log.Format.all.map Log.Format.name)) (.string f.name) := by
  refine .choice (List.mem_map_of_mem ?_)
  cases f <;> decide

theorem exact_toJson (c : Config) : Json.Exact c.toJson := by
  have houtputs : Json.Exact (.array (c.outputs.map fun o => .string o.name)) :=
    Json.Canonical.exact _ (.list_map (canonical_output 0) c.outputs)
  have hport : Json.Exact (Json.nullable (c.backendPort.map Json.port)) :=
    Json.exact_nullable (fun p => Json.Canonical.exact _ (Json.canonical_port 0 p)) c.backendPort
  have hregistry : Json.Exact c.registry.toJson :=
    Json.Canonical.exact _ (c.registry.canonical_toJson 0)
  exact ⟨⟨exact_text _, houtputs, exact_text _, exact_text _, trivial⟩,
    ⟨exact_text _, hport, trivial⟩, ⟨exact_text _, exact_text _, exact_text _, trivial⟩,
    hregistry, ⟨trivial, trivial, trivial, trivial⟩, trivial⟩

/-- The JSON form of a configuration as it is read: without nulls. -/
def readForm (c : Config) : Json :=
  .object (Json.withoutNulls
    [("mapping", .object (Json.withoutNulls
       [("version", textJson c.version),
        ("mode", .array (c.outputs.map fun o => .string o.name)),
        ("filename", textJson c.mappingFile),
        ("docs_filename", textJson c.docsFile)])),
     ("backend", .object (Json.withoutNulls
       [("host", textJson c.backendHost),
        ("port", Json.nullable (c.backendPort.map Json.port))])),
     ("defaults", .object (Json.withoutNulls
       [("action_class", textJson c.action),
        ("filter_class", textJson c.filter),
        ("application_path", textJson c.applicationPath)])),
     ("annotations", c.registry.toJson),
     ("logging", .object (Json.withoutNulls
       [("enabled", .bool c.logging.enabled),
        ("level", .string c.logging.directives),
        ("format", .string c.logging.format.name)]))])

theorem conform_toJson (c : Config) :
    (Json.Node.ofJson c.toJson).conform .json Json.maxDepth shape = .ok c.readForm := by
  refine Json.Reads.conform_record
    (.record ?mapping (by decide) (.record ?backend (by decide) (.record ?defaults (by decide)
      (.canonical (c.registry.canonical_toJson 124) (.record ?logging (by decide) .nil)))))
    (by decide) true
  case mapping =>
    refine reads_text c.version (.canonical (.list_map (canonical_output 124) c.outputs) ?_)
    exact reads_text c.mappingFile (reads_text c.docsFile .nil)
  case backend =>
    exact reads_text c.backendHost (.nullable (Json.canonical_port 125) c.backendPort .nil)
  case defaults =>
    exact reads_text c.action (reads_text c.filter (reads_text c.applicationPath .nil))
  case logging =>
    refine .canonical (.flag _) (.canonical (.text _) ?_)
    exact .canonical (canonical_format 125 _) .nil

theorem outputs?_of_field? {j : Json} {name : String} {os : List Output}
    (h : j.field? name = some (.array (os.map fun o => .string o.name))) :
    outputs? j name = some os := by
  unfold outputs?
  rw [h]
  apply Json.mapM_map_of_inverse
  intro o
  exact o.ofName?_name

/-- Every value of a configuration is found in the form that is read, an absent one where
there is none. -/
theorem ofJson?_readForm {c : Config} (h : c.registry.Sound) : ofJson? c.readForm = some c := by
  have houtputs : ∀ fs, outputs? (.object (Json.optionalField "version" (c.version.map .string) ++
      ("mode", .array (c.outputs.map fun o => .string o.name)) :: fs)) "mode" = some c.outputs :=
    fun fs => outputs?_of_field? (by simp)
  have hnullable : ∀ fs,
      Json.withoutNulls (("port", Json.nullable (c.backendPort.map Json.port)) :: fs) =
        Json.optionalField "port" (c.backendPort.map Json.port) ++ Json.withoutNulls fs :=
    fun fs => Json.withoutNulls_nullable (fun _ => Json.noConfusion) c.backendPort
  have hport : (Json.object (Json.optionalField "host" (c.backendHost.map .string) ++
      Json.optionalField "port" (c.backendPort.map Json.port))).port? "port" = c.backendPort :=
    Json.port?_of_field? (by simp)
  have hregistry : Registry.ofJson? c.registry.toJson = some c.registry :=
    Registry.ofJson?_toJson h
  have hnull : c.registry.toJson ≠ .null := (c.registry.canonical_toJson 0).ne_null
  have hformat := c.logging.format.ofName?_name
  simp [ofJson?, readForm, Json.text?, Json.flag?, houtputs, hnullable, hport, hnull, hregistry,
    hformat]

/-- **A configuration is read back as it was written.** -/
theorem ofJsonText_compactText {c : Config} (h : c.registry.Sound) :
    ofJsonText c.toJson.compactText = .ok c := by
  have hread : shape.read c.toJson.compactText = .ok c.readForm :=
    Json.Shape.read_compactText c.exact_toJson c.conform_toJson
  unfold ofJsonText
  rw [hread]
  show (ofJson? c.readForm).elim _ _ = _
  rw [ofJson?_readForm h]
  rfl

/-- **A configuration survives its text.** A loader that takes the compact text of a
configuration has the configuration, whatever it holds, if its registry was built by the
operations on registries. Without variables it loads as valid exactly when it is valid. -/
theorem loads_back (c : Config) (h : c.registry.Built) :
    ∃ l, Loader.withText {} c.toJson.compactText "json" = .ok l ∧ l.loadUnvalidated = c ∧
      ∀ e, l.load e = c.validate.map fun _ => c := by
  have htext : Loader.withText {} c.toJson.compactText "json" = .ok { config := c } := by
    show (ofJsonText c.toJson.compactText).map (fun c => ({ config := c } : Loader)) = _
    rw [ofJsonText_compactText h.sound]
    rfl
  refine ⟨{ config := c }, htext, rfl, ?_⟩
  intro e
  show (c.validate >>= fun _ => .ok c) = _
  cases c.validate <;> rfl

/-- A configuration that asks for one output twice, names files `null` and nothing, and has
a registry that many operations made. -/
def docsTwice : Config where
  version := some "v1"
  outputs := [.documentation, .documentation]
  mappingFile := some "null"
  docsFile := some "docs.json"
  backendHost := some ""
  backendPort := some 65535
  registry :=
    ((Registry.ofText "a.B:x,a.C, ,a.B:y").withAttribute "a.B" "x").merge
      ((Registry.ofTable (.ofList [("d.E", ["", "é"]), ("d.F", [])])).withAll "a.B")
  logging := { enabled := false, directives := "", format := .json }

theorem loads_back_docsTwice :
    docsTwice.registry.Built ∧
    ∃ l, Loader.withText {} docsTwice.toJson.compactText "json" = .ok l ∧
      l.loadUnvalidated = docsTwice ∧
      ∀ e, l.load e = docsTwice.validate.map fun _ => docsTwice := by
  have h : docsTwice.registry.Built :=
    .merge (.withAttribute (.ofText _) _ _) (.withAll (.ofTable _) _)
  exact ⟨h, loads_back docsTwice h⟩

end Config

end RouteMap
