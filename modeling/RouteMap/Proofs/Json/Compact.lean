import RouteMap.Proofs.Json.Canonical

/-!
# The compact form

The compact form has no white space, and its tokens are those of the value as well
(`tokens_compact`). So a canonical value is also read as it is from its compact text
(`Canonical.read_compactText`).
-/

namespace RouteMap.Json

theorem tokens_compactName (name : String) (rest : List Char) :
    tokens (quote name ++ ':' :: rest) = .string name :: .colon :: tokens rest := by
  rw [tokens_quote, tokens_mark ':' .colon rfl fun _ => rfl]

theorem numberEnds_compactItems (vs : List Json) (rest : List Char) :
    NumberEnds (compactItems vs ++ rest) := by
  cases vs <;> exact numberEnds_cons _ (by decide)

theorem numberEnds_compactFields (fs : List (String × Json)) (rest : List Char) :
    NumberEnds (compactFields fs ++ rest) := by
  cases fs <;> exact numberEnds_cons _ (by decide)

mutual

/-- **The compact form has the tokens of its value**, if what follows does not continue a
number at its end. -/
theorem tokens_compact (v : Json) (rest : List Char) (hv : Exact v) (h : NumberEnds rest) :
    tokens (compact v ++ rest) = tokensOf v ++ tokens rest := by
  cases v with
  | null => exact tokens_cons rfl _
  | bool b => cases b <;> exact tokens_cons rfl _
  | number n => exact tokens_write hv h
  | string s => exact tokens_quote s rest
  | array vs =>
    cases vs with
    | nil =>
      show tokens ('[' :: ']' :: rest) = _
      rw [tokens_mark '[' .openArray rfl fun _ => rfl, tokens_mark ']' .closeArray rfl fun _ => rfl]
      rfl
    | cons v vs =>
      -- a comma or a bracket stands directly behind an item
      have hfirst := tokens_compact v (compactItems vs ++ rest) hv.1
        (numberEnds_compactItems vs rest)
      have hothers := tokens_compactItems vs rest hv.2
      simp only [compact, tokensOf, List.cons_append, List.append_assoc]
      rw [tokens_mark '[' .openArray rfl fun _ => rfl, hfirst, hothers]
  | object fs =>
    cases fs with
    | nil =>
      show tokens ('\x7b' :: '\x7d' :: rest) = _
      rw [tokens_mark '\x7b' .openObject rfl fun _ => rfl,
        tokens_mark '\x7d' .closeObject rfl fun _ => rfl]
      rfl
    | cons f fs =>
      obtain ⟨name, v⟩ := f
      have hfirst := tokens_compact v (compactFields fs ++ rest) hv.1
        (numberEnds_compactFields fs rest)
      have hothers := tokens_compactFields fs rest hv.2
      simp only [compact, tokensOf, List.cons_append, List.append_assoc]
      rw [tokens_mark '\x7b' .openObject rfl fun _ => rfl, tokens_compactName, hfirst, hothers]

theorem tokens_compactItems (vs : List Json) (rest : List Char) (hvs : ExactItems vs) :
    tokens (compactItems vs ++ rest) = itemTokens vs ++ tokens rest := by
  cases vs with
  | nil => exact tokens_mark ']' .closeArray rfl (fun _ => rfl) rest
  | cons v vs =>
    have hfirst := tokens_compact v (compactItems vs ++ rest) hvs.1
      (numberEnds_compactItems vs rest)
    have hothers := tokens_compactItems vs rest hvs.2
    simp only [compactItems, itemTokens, List.cons_append, List.append_assoc]
    rw [tokens_comma, hfirst, hothers]

theorem tokens_compactFields (fs : List (String × Json)) (rest : List Char)
    (hfs : ExactFields fs) :
    tokens (compactFields fs ++ rest) = fieldTokens fs ++ tokens rest := by
  cases fs with
  | nil => exact tokens_mark '\x7d' .closeObject rfl (fun _ => rfl) rest
  | cons f fs =>
    obtain ⟨name, v⟩ := f
    have hfirst := tokens_compact v (compactFields fs ++ rest) hfs.1
      (numberEnds_compactFields fs rest)
    have hothers := tokens_compactFields fs rest hfs.2
    simp only [compactFields, fieldTokens, List.cons_append, List.append_assoc]
    rw [tokens_comma, tokens_compactName, hfirst, hothers]

end

/-- **The document of a compact text is the value.** -/
theorem Document.ofText_compactText {v : Json} (hv : Exact v) :
    Document.ofText v.compactText = ⟨Node.ofJson v, false⟩ := by
  apply Document.ofText_of_tokens
  have h := tokens_compact v [] hv numberEnds_nil
  simpa [tokens, compactText] using h

/-- A compact text is read as its value is. -/
theorem Shape.read_compactText {shape : Shape} {v w : Json} (hv : Exact v)
    (h : (Node.ofJson v).conform .json maxDepth shape = .ok w) :
    shape.read v.compactText = .ok w := by
  unfold Shape.read Document.conform
  rw [Document.ofText_compactText hv, h]
  rfl

/-- **A canonical value is read from its compact text without loss**, unless it is nested
too deep for a reader. -/
theorem Canonical.read_compactText {shape : Shape} {v : Json} (h : Canonical maxDepth shape v) :
    shape.read v.compactText = .ok v :=
  Shape.read_compactText (Canonical.exact v h) (Canonical.conform_ofJson v h)

end RouteMap.Json
