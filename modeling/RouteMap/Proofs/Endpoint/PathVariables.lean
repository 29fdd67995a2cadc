import RouteMap.Proofs.Endpoint.PathTemplate
import RouteMap.Proofs.Text.Lines

/-!
# Path variables in joined form

The names of path variables are written as one text with spaces between them, and so are their
expressions; only the place of an expression says to which name it belongs. No name holds a
space, so the names can be cut apart again. Expressions may hold spaces, and then they fall into
more pieces than there are variables: the variables can be read off the two texts exactly if no
expression holds a space (`names_expressions_in_step`).
-/

namespace RouteMap

open Text (join pieces piecesOf piecesOf_of_not_mem flatMap_piecesOf_of_not_mem)

/-! ## Names -/

namespace PathTemplate

theorem isName_of_mem_placeholders {cs name : List Char} (h : name ∈ placeholders cs) :
    IsName name := by
  rw [placeholders_eq_map_occurrences cs 0] at h
  obtain ⟨⟨place, name⟩, hmem, rfl⟩ := List.mem_map.mp h
  obtain ⟨k, -, hk⟩ := mem_occurrences_iff.mp hmem
  exact hk.isName

theorem space_not_mem_name {template : String} {tags : Tag.Index} {v : PathVariable}
    (h : v ∈ pathVariables template tags) : ' ' ∉ v.name.toList := by
  obtain ⟨name, hname, hv⟩ := List.mem_filterMap.mp h
  obtain ⟨expression, -, rfl⟩ := Option.map_eq_some_iff.mp hv
  have hspace := (isName_of_mem_placeholders hname).not_mem (c := ' ') (by decide) (by decide)
  rwa [String.toList_ofList]

end PathTemplate

/-! ## Cutting joined texts -/

namespace PathVariable

variable {vs : List PathVariable}

theorem length_piecesOf (s : String) : (piecesOf ' ' s).length = s.toList.count ' ' + 1 := by
  rw [piecesOf, List.length_map, Text.length_pieces]

/-- A text with a space is none of its own pieces. -/
theorem not_mem_piecesOf {s : String} (h : ' ' ∈ s.toList) : s ∉ piecesOf ' ' s := by
  intro hmem
  obtain ⟨piece, hpiece, heq⟩ := List.mem_map.mp hmem
  have hspace := Text.not_mem_of_mem_pieces hpiece
  rw [← heq, String.toList_ofList] at h
  exact hspace h

theorem piecesOf_join {parts : List String} (h : parts ≠ []) :
    piecesOf ' ' (join " " parts) = parts.flatMap (piecesOf ' ') :=
  Text.piecesOf_join rfl h

theorem length_flatMap_piecesOf (vs : List PathVariable) :
    ((vs.map expression).flatMap (piecesOf ' ')).length =
      vs.length + (vs.flatMap fun v => v.expression.toList).count ' ' := by
  induction vs with
  | nil => rfl
  | cons v vs ih =>
    simp only [List.map_cons, List.flatMap_cons, List.length_append, List.length_cons,
      List.count_append, length_piecesOf, ih]
    omega

/-- Names beside pieces of expressions are the variables if every expression is one piece. The
first expression that is not leaves a piece of itself in its place. -/
theorem zipWith_flatMap_eq_iff (vs : List PathVariable) :
    List.zipWith mk (vs.map name) ((vs.map expression).flatMap (piecesOf ' ')) = vs ↔
      ∀ v ∈ vs, ' ' ∉ v.expression.toList := by
  induction vs with
  | nil => simp
  | cons v vs ih =>
    rw [List.forall_mem_cons, ← ih, List.map_cons, List.map_cons, List.flatMap_cons]
    by_cases hspace : ' ' ∈ v.expression.toList
    · have hne : piecesOf ' ' v.expression ≠ [] := by
        intro hnil
        have hlength := length_piecesOf v.expression
        rw [hnil] at hlength
        cases hlength
      obtain ⟨piece, rest, hpieces⟩ := List.exists_cons_of_ne_nil hne
      have hpiece : piece ≠ v.expression := by
        rintro rfl
        apply not_mem_piecesOf hspace
        rw [hpieces]
        exact List.mem_cons_self
      simp only [hpieces, List.cons_append, List.zipWith_cons_cons, List.cons.injEq, hspace,
        not_true_eq_false, false_and, iff_false, not_and]
      intro hv
      exact absurd (congrArg expression hv) hpiece
    · simp [piecesOf_of_not_mem hspace, hspace]

/-- **Names and expressions are in step.** The path variables of a template have joined names
and joined expressions if there are any variables. The names are the pieces of their text. The
expressions make one piece each and one more for each space in them, so names and pieces side by
side are the variables exactly if no expression holds a space. -/
theorem names_expressions_in_step (template : String) (tags : Tag.Index) :
    let vs := PathTemplate.pathVariables template tags
    (names vs = none ↔ vs = []) ∧ (expressions vs = none ↔ vs = []) ∧
      (vs = [] ∨ ∃ joinedNames joinedExpressions,
        names vs = some joinedNames ∧ expressions vs = some joinedExpressions ∧
        piecesOf ' ' joinedNames = vs.map name ∧
        (piecesOf ' ' joinedExpressions).length =
          vs.length + (vs.flatMap fun v => v.expression.toList).count ' ' ∧
        (List.zipWith mk (piecesOf ' ' joinedNames) (piecesOf ' ' joinedExpressions) = vs ↔
          ∀ v ∈ vs, ' ' ∉ v.expression.toList)) := by
  intro vs
  refine ⟨by simp [names], by simp [expressions], ?_⟩
  by_cases hvs : vs = []
  · exact .inl hvs
  · have hnames : piecesOf ' ' (join " " (vs.map name)) = vs.map name := by
      rw [piecesOf_join (by simpa using hvs)]
      apply flatMap_piecesOf_of_not_mem
      intro s hs
      obtain ⟨v, hv, rfl⟩ := List.mem_map.mp hs
      exact PathTemplate.space_not_mem_name hv
    have hexpressions : piecesOf ' ' (join " " (vs.map expression)) =
        (vs.map expression).flatMap (piecesOf ' ') := piecesOf_join (by simpa using hvs)
    refine .inr ⟨join " " (vs.map name), join " " (vs.map expression), ?_, ?_, hnames, ?_, ?_⟩
    · simp [names, hvs]
    · simp [expressions, hvs]
    · rw [hexpressions, length_flatMap_piecesOf]
    · rw [hnames, hexpressions, zipWith_flatMap_eq_iff]

/-- Two placeholders without a name and an expression with a space: the names come apart as they
were, the expressions do not. -/
example :
    let vs := PathTemplate.pathVariables "/\x7b\x7d/\x7bid\x7d\x7b\x7d"
      (.ofTags [⟨"apifest.re.", ""⟩, ⟨"apifest.re.id", "a b"⟩])
    names vs = some " id " ∧ expressions vs = some " a b " ∧
      piecesOf ' ' " id " = vs.map name ∧ piecesOf ' ' " a b " = ["", "a", "b", ""] := by
  decide +kernel

end PathVariable

end RouteMap
