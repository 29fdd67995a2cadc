import RouteMap.Config.Basic

/-!
# Valid configurations

`validate_eq_ok_iff` says what a valid configuration has, and `validate_eq_noOutputs_iff` which
configuration is refused because it asks for no output. From then on nobody looks at the order in
which `validate` asks.
-/

namespace RouteMap.Config

/-- A value that counts as given is the given text without blanks at its ends. -/
theorem given_eq_some {value : Option String} {v : String} (h : given value = some v) :
    ∃ raw, value = some raw ∧ Text.trimmed raw = v := by
  unfold given at h
  obtain ⟨hmap, -⟩ := Option.filter_eq_some_iff.mp h
  obtain ⟨raw, hraw, rfl⟩ := Option.map_eq_some_iff.mp hmap
  exact ⟨raw, hraw, rfl⟩

theorem require_eq_ok_iff {α : Type} (field : String) (value : Option α) :
    require field value = .ok () ↔ ∃ v, value = some v := by
  cases value <;> simp [require]

/-- What the mapping of a configuration needs: a backend and a file. -/
structure HasMapping (c : Config) : Prop where
  host : ∃ host, c.host? = some host
  port : ∃ port, c.backendPort = some port
  file : ∃ name, c.mappingFile? = some name

theorem bind_eq_ok_iff {ε α : Type} {x : Except ε Unit} {f : Unit → Except ε α} {a : α} :
    (x >>= f) = .ok a ↔ x = .ok () ∧ f () = .ok a := by
  cases x <;> simp [bind, Except.bind]

/-- A configuration is valid exactly if it has a version and an output, and for each
output that it wants what this needs. -/
theorem validate_eq_ok_iff (c : Config) :
    c.validate = .ok () ↔
      (∃ v, c.version? = some v) ∧ c.outputs ≠ [] ∧
        (c.wants .mapping = true → c.HasMapping) ∧
        (c.wants .documentation = true → ∃ name, c.docsFile? = some name) := by
  unfold validate
  rw [bind_eq_ok_iff, require_eq_ok_iff]
  apply and_congr_right
  rintro -
  by_cases hempty : c.outputs = []
  · simp [hempty, throw, throwThe, MonadExceptOf.throw, bind, Except.bind]
  · have hmapping : c.HasMapping ↔ (∃ host, c.host? = some host) ∧
        (∃ port, c.backendPort = some port) ∧ ∃ name, c.mappingFile? = some name :=
      ⟨fun h => ⟨h.host, h.port, h.file⟩, fun h => ⟨h.1, h.2.1, h.2.2⟩⟩
    -- what is asked depends on the two wishes only
    cases hm : c.wants .mapping <;> cases hd : c.wants .documentation <;>
      simp [hempty, hmapping, bind_eq_ok_iff, require_eq_ok_iff, pure, Except.pure, and_assoc]

theorem bind_eq_error_iff {ε α : Type} {x : Except ε Unit} {f : Unit → Except ε α} {cause : ε} :
    (x >>= f) = .error cause ↔ x = .error cause ∨ x = .ok () ∧ f () = .error cause := by
  cases x <;> simp [bind, Except.bind]

theorem require_ne_noOutputs {α : Type} (field : String) (value : Option α) :
    require field value ≠ .error .noOutputs := by
  cases value <;> simp [require]

/-- A configuration is refused because it asks for no output exactly if it has a version and no
outputs. -/
theorem validate_eq_noOutputs_iff (c : Config) :
    c.validate = .error .noOutputs ↔ (∃ v, c.version? = some v) ∧ c.outputs = [] := by
  unfold validate
  rw [bind_eq_error_iff, or_iff_right (require_ne_noOutputs _ _), require_eq_ok_iff]
  apply and_congr_right
  rintro -
  by_cases hempty : c.outputs = []
  · simp [hempty, throw, throwThe, MonadExceptOf.throw, bind, Except.bind]
  · -- with an output only values can be missing
    cases hm : c.wants .mapping <;> cases hd : c.wants .documentation <;>
      simp [hempty, bind_eq_error_iff, require_ne_noOutputs, pure, Except.pure]

/-! ## What a run takes from a configuration -/

theorem settings_version {c : Config} {v : String} (h : c.version? = some v) :
    c.settings.version = v := by
  simp [settings, h]

theorem settings_backend {c : Config} {host : String} {port : UInt16}
    (h : c.backend = some (host, port)) :
    c.settings.backendHost = some host ∧ c.settings.backendPort = some port := by
  simp [settings, h]

end RouteMap.Config
