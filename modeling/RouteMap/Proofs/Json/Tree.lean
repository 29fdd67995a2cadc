import RouteMap.Json.Document
import RouteMap.Proofs.Json.Scalars

/-!
# The tree of a text that was written

A value is written with white space that says nothing: the tokens of its pretty form
are the tokens of the value (`tokens_prettyAt`). The machine that builds the tree takes
them from any place where a value is due to the place behind it (`run_tokensOf`), so the
document of the text is the value as a node.
-/

namespace RouteMap.Json

/-! ## The tokens of a value -/

mutual

/-- The tokens of a value. -/
def tokensOf : Json → List Token
  | .null => [.null]
  | .bool b => [.bool b]
  | .number n => [.number n]
  | .string s => [.string s]
  | .array [] => [.openArray, .closeArray]
  | .array (v :: vs) => .openArray :: (tokensOf v ++ itemTokens vs)
  | .object [] => [.openObject, .closeObject]
  | .object ((k, v) :: fs) => .openObject :: .string k :: .colon :: (tokensOf v ++ fieldTokens fs)

/-- The tokens of the items after the first, and of the end of the array. -/
def itemTokens : List Json → List Token
  | [] => [.closeArray]
  | v :: vs => .comma :: (tokensOf v ++ itemTokens vs)

/-- The tokens of the fields after the first, and of the end of the object. -/
def fieldTokens : List (String × Json) → List Token
  | [] => [.closeObject]
  | (k, v) :: fs => .comma :: .string k :: .colon :: (tokensOf v ++ fieldTokens fs)

end

mutual

/-- All numbers in a value are read exactly as they were written. -/
def Exact : Json → Prop
  | .number n => n.Exact
  | .array vs => ExactItems vs
  | .object fs => ExactFields fs
  | _ => True

/-- All numbers in some items are read exactly as they were written. -/
def ExactItems : List Json → Prop
  | [] => True
  | v :: vs => Exact v ∧ ExactItems vs

/-- All numbers in some fields are read exactly as they were written. -/
def ExactFields : List (String × Json) → Prop
  | [] => True
  | (_, v) :: fs => Exact v ∧ ExactFields fs

end

/-! ## White space between tokens -/

theorem tokens_newline (depth : Nat) (rest : List Char) :
    tokens (newline depth ++ rest) = tokens rest := by
  unfold newline
  rw [List.cons_append, tokens_space rfl]
  induction 2 * depth with
  | zero => rfl
  | succ n ih => rw [List.replicate_succ, List.cons_append, tokens_space rfl, ih]

/-- A character that is a token of its own. -/
theorem tokens_mark (c : Char) (t : Token) (hs : isSpace c = false)
    (ht : ∀ cs, token c cs = (t, cs)) (cs : List Char) : tokens (c :: cs) = t :: tokens cs := by
  rw [tokens_cons hs, ht]

theorem tokens_comma (cs : List Char) : tokens (',' :: cs) = .comma :: tokens cs :=
  tokens_mark ',' .comma rfl (fun _ => rfl) cs

/-- The white space around a colon says nothing either. -/
theorem tokens_name (name : String) (rest : List Char) :
    tokens (quote name ++ ':' :: ' ' :: rest) = .string name :: .colon :: tokens rest := by
  rw [tokens_quote, tokens_mark ':' .colon rfl fun _ => rfl, tokens_space rfl]

/-! ## The tokens of the pretty form -/

theorem numberEnds_prettyItems (depth : Nat) (vs : List Json) (rest : List Char) :
    NumberEnds (prettyItems depth vs ++ rest) := by
  cases vs <;> exact numberEnds_cons _ (by decide)

theorem numberEnds_prettyFields (depth : Nat) (fs : List (String × Json)) (rest : List Char) :
    NumberEnds (prettyFields depth fs ++ rest) := by
  cases fs <;> exact numberEnds_cons _ (by decide)

mutual

/-- **The pretty form has the tokens of its value**, if what follows does not continue a
number at its end. -/
theorem tokens_prettyAt (depth : Nat) (v : Json) (rest : List Char) (hv : Exact v)
    (h : NumberEnds rest) : tokens (prettyAt depth v ++ rest) = tokensOf v ++ tokens rest := by
  cases v with
  | null => exact tokens_cons rfl _
  | bool b => cases b <;> exact tokens_cons rfl _
  | number n => exact tokens_write hv h
  | string s => exact tokens_quote s rest
  | array vs =>
    cases vs with
    | nil =>
      show tokens ('[' :: ']' :: rest) = _
      rw [tokens_mark '[' .openArray rfl fun _ => rfl, tokens_mark ']' .closeArray rfl fun _ => rfl]
      rfl
    | cons v vs =>
      -- what follows an item is a comma or a line end, so a number ends there
      have hfirst := tokens_prettyAt (depth + 1) v (prettyItems depth vs ++ rest) hv.1
        (numberEnds_prettyItems depth vs rest)
      have hothers := tokens_prettyItems depth vs rest hv.2
      simp only [prettyAt, tokensOf, List.cons_append, List.append_assoc]
      rw [tokens_mark '[' .openArray rfl fun _ => rfl, tokens_newline, hfirst, hothers]
  | object fs =>
    cases fs with
    | nil =>
      show tokens ('\x7b' :: '\x7d' :: rest) = _
      rw [tokens_mark '\x7b' .openObject rfl fun _ => rfl,
        tokens_mark '\x7d' .closeObject rfl fun _ => rfl]
      rfl
    | cons f fs =>
      obtain ⟨name, v⟩ := f
      have hfirst := tokens_prettyAt (depth + 1) v (prettyFields depth fs ++ rest) hv.1
        (numberEnds_prettyFields depth fs rest)
      have hothers := tokens_prettyFields depth fs rest hv.2
      simp only [prettyAt, tokensOf, List.cons_append, List.append_assoc]
      rw [tokens_mark '\x7b' .openObject rfl fun _ => rfl, tokens_newline, tokens_name, hfirst,
        hothers]

theorem tokens_prettyItems (depth : Nat) (vs : List Json) (rest : List Char)
    (hvs : ExactItems vs) :
    tokens (prettyItems depth vs ++ rest) = itemTokens vs ++ tokens rest := by
  cases vs with
  | nil =>
    simp only [prettyItems, List.append_assoc, List.cons_append, List.nil_append]
    rw [tokens_newline, tokens_mark ']' .closeArray rfl fun _ => rfl]
    rfl
  | cons v vs =>
    have hfirst := tokens_prettyAt (depth + 1) v (prettyItems depth vs ++ rest) hvs.1
      (numberEnds_prettyItems depth vs rest)
    have hothers := tokens_prettyItems depth vs rest hvs.2
    simp only [prettyItems, itemTokens, List.cons_append, List.append_assoc]
    rw [tokens_comma, tokens_newline, hfirst, hothers]

theorem tokens_prettyFields (depth : Nat) (fs : List (String × Json)) (rest : List Char)
    (hfs : ExactFields fs) :
    tokens (prettyFields depth fs ++ rest) = fieldTokens fs ++ tokens rest := by
  cases fs with
  | nil =>
    simp only [prettyFields, List.append_assoc, List.cons_append, List.nil_append]
    rw [tokens_newline, tokens_mark '\x7d' .closeObject rfl fun _ => rfl]
    rfl
  | cons f fs =>
    obtain ⟨name, v⟩ := f
    have hfirst := tokens_prettyAt (depth + 1) v (prettyFields depth fs ++ rest) hfs.1
      (numberEnds_prettyFields depth fs rest)
    have hothers := tokens_prettyFields depth fs rest hfs.2
    simp only [prettyFields, fieldTokens, List.cons_append, List.append_assoc]
    rw [tokens_comma, tokens_newline, tokens_name, hfirst, hothers]

end

/-! ## The run of the machine -/

/-- No value begins with the end of an array, so where an item is due a value is read as
anywhere else. -/
theorem run_item (v : Json) (ts : List Token) (stack : List Frame) {expect : Expect}
    (h : expect = .firstItem ∨ expect = .itemAfterComma) :
    (tokensOf v ++ ts).foldl State.next (.inside expect stack) =
      (tokensOf v ++ ts).foldl State.next (.inside .value stack) := by
  rcases h with rfl | rfl
  all_goals
    cases v with
    | array vs => cases vs <;> rfl
    | object fs => cases fs <;> rfl
    | _ => rfl

mutual

/-- **The machine reads a value** wherever one is due, and stands behind it then. -/
theorem run_tokensOf (v : Json) (stack : List Frame) :
    (tokensOf v).foldl State.next (.inside .value stack) =
      State.complete (Node.ofJson v) stack := by
  cases v with
  | null => rfl
  | bool b => rfl
  | number n => rfl
  | string s => rfl
  | array vs =>
    cases vs with
    | nil => rfl
    | cons v vs =>
      show (tokensOf v ++ itemTokens vs).foldl State.next
        (.inside .firstItem (.items [] :: stack)) = _
      -- the array is open while its first item is read, and holds the item then
      rw [run_item v _ _ (.inl rfl), List.foldl_append, run_tokensOf v]
      exact run_itemTokens vs [Node.ofJson v] stack
  | object fs =>
    cases fs with
    | nil => rfl
    | cons f fs =>
      obtain ⟨name, v⟩ := f
      show (tokensOf v ++ fieldTokens fs).foldl State.next
        (.inside .value (.members [] (some name) :: stack)) = _
      rw [List.foldl_append, run_tokensOf v]
      exact run_fieldTokens fs [(some name, Node.ofJson v)] stack

/-- Behind an item the machine reads the others and closes the array. -/
theorem run_itemTokens (vs : List Json) (done : List Node) (stack : List Frame) :
    (itemTokens vs).foldl State.next (.inside .commaOrEnd (.items done :: stack)) =
      State.complete (.array (Items.prepend done (Items.ofList vs))) stack := by
  cases vs with
  | nil => rfl
  | cons v vs =>
    show (tokensOf v ++ itemTokens vs).foldl State.next
      (.inside .itemAfterComma (.items done :: stack)) = _
    rw [run_item v _ _ (.inr rfl), List.foldl_append, run_tokensOf v]
    exact run_itemTokens vs (Node.ofJson v :: done) stack

/-- Behind a field the machine reads the others and closes the object. -/
theorem run_fieldTokens (fs : List (String × Json)) (done : List (Option String × Node))
    (stack : List Frame) :
    (fieldTokens fs).foldl State.next (.inside .commaOrEnd (.members done none :: stack)) =
      State.complete (.object (Members.prepend done (Members.ofList fs))) stack := by
  cases fs with
  | nil => rfl
  | cons f fs =>
    obtain ⟨name, v⟩ := f
    show (tokensOf v ++ fieldTokens fs).foldl State.next
      (.inside .value (.members done (some name) :: stack)) = _
    rw [List.foldl_append, run_tokensOf v]
    exact run_fieldTokens fs ((some name, Node.ofJson v) :: done) stack

end

/-- A text with the tokens of a value is a document of the value, with nothing behind it. -/
theorem Document.ofText_of_tokens {text : String} {v : Json} (h : tokens text.toList = tokensOf v) :
    Document.ofText text = ⟨Node.ofJson v, false⟩ := by
  unfold Document.ofText Document.ofTokens State.start
  rw [h, run_tokensOf v []]
  rfl

/-- **The document of a written value is the value.** -/
theorem Document.ofText_prettyText {v : Json} (hv : Exact v) :
    Document.ofText v.prettyText = ⟨Node.ofJson v, false⟩ := by
  apply Document.ofText_of_tokens
  have h := tokens_prettyAt 0 v [] hv numberEnds_nil
  simpa [tokens, prettyText] using h

end RouteMap.Json
