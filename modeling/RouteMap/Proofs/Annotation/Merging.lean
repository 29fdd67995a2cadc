import RouteMap.Proofs.Annotation.Registry
import RouteMap.Proofs.Text.Lines
import RouteMap.Proofs.Text.Trim

/-!
# Merged registries

A merged registry wants what either of its parts wants (`selects_merge`, `contains_merge`). The
registry of a text wants what the pieces of the text say, each piece a bare type or a type with an
attribute behind a colon (`mem_entriesOf_iff`), wherever in the text they stand. So two texts with a
comma between them say what their two registries say once they are merged, in the same order
(`ofText_append`).
-/

namespace RouteMap.Registry

open Text (trim trimStart trimEnd trimmed pieces piecesOf)

variable {s : Registry}

/-! ## What a merged registry wants -/

theorem selects_merge (r s : Registry) (type name : String) :
    (r.merge s).selects type name = (r.selects type name || s.selects type name) := by
  rw [Bool.eq_iff_iff, Bool.or_eq_true, selects_iff_wants, selects_iff_wants, selects_iff_wants,
    get?_merge, Selection.wants_extendAll, ← Selection.wants_iff]

/-- A type that is given to a merge without attributes would be lost, but there is none. -/
theorem contains_merge (hs : s.Sound) (r : Registry) (type : String) :
    (r.merge s).contains type = (r.contains type || s.contains type) := by
  have hgiven : Selection.given (s.types.get? type) ≠ [] ↔
      (s.types.get? type).isSome = true := by
    have hne := hs.ne_named_nil type
    match h : s.types.get? type with
    | none => simp [Selection.given]
    | some .all => simp [Selection.given]
    | some (.named []) => exact absurd h hne
    | some (.named (_ :: _)) => simp [Selection.given]
  unfold contains
  rw [Table.contains_eq_isSome_get?, Table.contains_eq_isSome_get?, Table.contains_eq_isSome_get?,
    Bool.eq_iff_iff, Bool.or_eq_true, get?_merge, Selection.isSome_extendAll, hgiven]

/-- **To merge what entries have made is to add the entries.** -/
theorem merge_addAll (r : Registry) (es : List Entry) :
    r.merge (empty.addAll es) = r.addAll es := by
  have hsound := sound_empty.addAll es
  apply eq_of_get?
  · rw [names_merge hsound.ne_named_nil, names_empty_addAll, names_addAll]
  · intro type
    rw [get?_merge, get?_addAll, get?_addAll]
    exact Selection.extendAll_given_extendAll _ none _

/-! ## The entries of a text -/

theorem selects_empty_addAll (es : List Entry) (type name : String) :
    (empty.addAll es).selects type name = true ↔ (type, none) ∈ es ∨ (type, some name) ∈ es := by
  rw [selects_iff_wants, get?_addAll, Selection.wants_extendAll, mem_ofType, mem_ofType]
  exact or_iff_right id

theorem contains_empty_addAll (es : List Entry) (type : String) :
    (empty.addAll es).contains type = true ↔ ∃ name, (type, name) ∈ es := by
  rw [contains, Table.contains, names_empty_addAll, List.contains_iff_mem, List.mem_eraseDups,
    List.mem_map]
  constructor
  · rintro ⟨⟨_, name⟩, hmem, rfl⟩
    exact ⟨name, hmem⟩
  · rintro ⟨name, hmem⟩
    exact ⟨_, hmem, rfl⟩

/-- A piece of a text that is the bare type. -/
def IsBare (type piece : String) : Prop :=
  trimmed piece = type ∧ type ≠ "" ∧ ':' ∉ piece.toList

/-- A piece of a text that is the type with the attribute. The first colon stands between them, so
that an attribute may have colons of its own. -/
def IsNamed (type name piece : String) : Prop :=
  ∃ before after : String, piece = before ++ ":" ++ after ∧ ':' ∉ before.toList ∧
    trimmed before = type ∧ trimmed after = name

theorem isBlank_colon : Text.isBlank ':' = false := rfl

/-- A piece with a colon is cut there, and both sides are trimmed. -/
theorem ofPiece_of_colon {before : List Char} (h : ':' ∉ before) (after : List Char) :
    ofPiece (trim (before ++ ':' :: after)) =
      (String.ofList (trim before), some (String.ofList (trim after))) := by
  have hstart : ∀ c ∈ trimStart before, (c == ':') = false := by
    intro c hc
    rw [beq_eq_false_iff_ne]
    rintro rfl
    exact h ((Text.trimStart_isSuffix before).subset hc)
  rw [Text.trim_append_cons isBlank_colon, ofPiece, Text.cut_append hstart rfl]
  simp only [Text.trim_trimStart, Text.trim_trimEnd]

theorem ofPiece_of_no_colon {piece : List Char} (h : ':' ∉ piece) :
    ofPiece (trim piece) = (String.ofList (trim piece), none) := by
  have hcut : Text.cut (· == ':') (trim piece) = none := by
    apply Text.cut_eq_none
    intro c hc
    rw [beq_eq_false_iff_ne]
    rintro rfl
    exact h (Text.mem_of_mem_trim hc)
  rw [ofPiece, hcut]

/-- What a piece of a text says, if it is not blank. -/
def Says (piece : String) : Entry → Prop
  | (type, none) => IsBare type piece
  | (type, some name) => IsNamed type name piece

theorem says_iff (piece : List Char) (e : Entry) :
    Says (String.ofList piece) e ↔ trim piece ≠ [] ∧ ofPiece (trim piece) = e := by
  obtain ⟨type, name⟩ := e
  constructor
  · intro h
    match name, h with
    | none, ⟨htype, hne, hcolon⟩ =>
      rw [String.toList_ofList] at hcolon
      rw [trimmed, String.toList_ofList] at htype
      rw [ofPiece_of_no_colon hcolon, htype]
      refine ⟨fun hnil => hne ?_, rfl⟩
      rw [← htype, hnil]
    | some name, ⟨before, after, hpiece, hcolon, htype, hname⟩ =>
      obtain rfl : piece = before.toList ++ ':' :: after.toList := by
        simpa using congrArg String.toList hpiece
      rw [ofPiece_of_colon hcolon, ← htype, ← hname, Text.trim_append_cons isBlank_colon]
      exact ⟨List.append_ne_nil_of_right_ne_nil _ (List.cons_ne_nil _ _), rfl⟩
  · rintro ⟨hne, hentry⟩
    by_cases hcolon : ':' ∈ piece
    · obtain ⟨before, after, rfl, hbefore⟩ := List.eq_append_cons_of_mem hcolon
      rw [ofPiece_of_colon hbefore] at hentry
      cases hentry
      refine ⟨String.ofList before, String.ofList after, ?_, ?_, ?_, ?_⟩
      · simp [String.append_assoc]
      · rwa [String.toList_ofList]
      · rw [trimmed, String.toList_ofList]
      · rw [trimmed, String.toList_ofList]
    · rw [ofPiece_of_no_colon hcolon] at hentry
      cases hentry
      refine ⟨?_, ?_, ?_⟩
      · rw [trimmed, String.toList_ofList]
      · simpa using hne
      · rwa [String.toList_ofList]

/-- The entries of a text are what its pieces say. -/
theorem mem_entriesOf_iff {text : String} {e : Entry} :
    e ∈ entriesOf text ↔ ∃ piece ∈ piecesOf ',' text, Says piece e := by
  simp [entriesOf, piecesOf, says_iff, and_assoc]

theorem entriesOf_append (x y : String) :
    entriesOf (x ++ "," ++ y) = entriesOf x ++ entriesOf y := by
  have hpieces :
      pieces ',' (x ++ "," ++ y).toList = pieces ',' x.toList ++ pieces ',' y.toList := by
    rw [← Text.pieces_append]
    simp
  rw [entriesOf, hpieces, List.map_append, List.filter_append, List.map_append]
  rfl

/-- **Two texts with a comma between them are two registries merged.** -/
theorem ofText_append (x y : String) : ofText (x ++ "," ++ y) = (ofText x).merge (ofText y) := by
  calc ofText (x ++ "," ++ y)
    _ = empty.addAll (entriesOf x ++ entriesOf y) := by rw [ofText_eq_addAll, entriesOf_append]
    _ = (ofText x).addAll (entriesOf y) := by
      rw [addAll, List.foldl_append, ofText_eq_addAll x]
      rfl
    _ = (ofText x).merge (ofText y) := by rw [ofText_eq_addAll y, merge_addAll]

theorem selects_ofText_iff (text type name : String) :
    (ofText text).selects type name = true ↔
      ∃ piece ∈ piecesOf ',' text, IsBare type piece ∨ IsNamed type name piece := by
  rw [ofText_eq_addAll, selects_empty_addAll, mem_entriesOf_iff, mem_entriesOf_iff, ← exists_or]
  simp only [← and_or_left]
  rfl

theorem contains_ofText_iff (text type : String) :
    (ofText text).contains type = true ↔
      ∃ piece ∈ piecesOf ',' text, IsBare type piece ∨ ∃ name, IsNamed type name piece := by
  rw [ofText_eq_addAll, contains_empty_addAll]
  constructor
  · rintro ⟨name, hmem⟩
    obtain ⟨piece, hpiece, hsays⟩ := mem_entriesOf_iff.mp hmem
    match name, hsays with
    | none, hbare => exact ⟨piece, hpiece, .inl hbare⟩
    | some name, hnamed => exact ⟨piece, hpiece, .inr ⟨name, hnamed⟩⟩
  · rintro ⟨piece, hpiece, hbare | ⟨name, hnamed⟩⟩
    · exact ⟨none, mem_entriesOf_iff.mpr ⟨piece, hpiece, hbare⟩⟩
    · exact ⟨some name, mem_entriesOf_iff.mpr ⟨piece, hpiece, hnamed⟩⟩

/-! ## The algebra of registries -/

/-- **Registries are merged as their texts are put together.** A merged registry wants what either
part wants. The registry of a text has a type if a piece of the text is the type, bare or with an
attribute, and wants an attribute of it if a piece is the bare type, wherever it stands, or the type
with this attribute. Two texts with a comma between them have the registries of both merged, with
types and attributes in the same order. -/
theorem merge_wants_either (r : Registry) (hs : s.Built) :
    (∀ type name, (r.merge s).selects type name = (r.selects type name || s.selects type name)) ∧
      (∀ type, (r.merge s).contains type = (r.contains type || s.contains type)) ∧
      (∀ text type, (ofText text).contains type = true ↔
        ∃ piece ∈ piecesOf ',' text, IsBare type piece ∨ ∃ name, IsNamed type name piece) ∧
      (∀ text type name, (ofText text).selects type name = true ↔
        ∃ piece ∈ piecesOf ',' text, IsBare type piece ∨ IsNamed type name piece) ∧
      ∀ x y, ofText (x ++ "," ++ y) = (ofText x).merge (ofText y) :=
  ⟨selects_merge r s, contains_merge hs.sound r, contains_ofText_iff, selects_ofText_iff,
    ofText_append⟩

/-- A type with an attribute from each side, and a bare type that takes the place of attributes. -/
theorem merge_wants_either_multiple :
    let r := ofText "a.Multiple:names, a.Custom : value"
    let s := ofTable ((Table.empty.insert "a.Custom" []).insert "a.Multiple" ["value"])
    s.Built ∧ (r.merge s).selects "a.Multiple" "names" = true ∧
      (r.merge s).selects "a.Multiple" "value" = true ∧
      (r.merge s).selects "a.Multiple" "other" = false ∧
      (r.merge s).selects "a.Custom" "other" = true ∧ (r.merge s).contains "b.Unknown" = false ∧
      r.merge (ofText "a.Custom,,a.Multiple:value") =
        ofText "a.Multiple:names, a.Custom : value,a.Custom,,a.Multiple:value" := by
  intro r s
  have hs : s.Built := .ofTable _
  obtain ⟨hselects, hcontains, -, -, happend⟩ := merge_wants_either r hs
  refine ⟨hs, ?_, ?_, ?_, ?_, ?_, (happend _ _).symm⟩
  · rw [hselects]
    decide +kernel
  · rw [hselects]
    decide +kernel
  · rw [hselects]
    decide +kernel
  · rw [hselects]
    decide +kernel
  · rw [hcontains]
    decide +kernel

end RouteMap.Registry
