import Mathlib.Data.List.Infix
import RouteMap.Text.Split

/-!
# Laws of cutting and lines

A text is cut at its first separator (`cut_append`) or at its last one (`cutLast_append`). A
text without line feeds is one line; in front of a line feed it is the first line of the text,
less a carriage return at its end, and the other lines are those of what follows
(`lines_append_newline`). The way back from lines is `List.intercalate`, whose ends are those
of the first and the last part and whose pieces are those of all parts (`pieces_intercalate`); for
strings it is `join` (`piecesOf_join`).
-/

namespace RouteMap.Text

variable {cs line : List Char}

/-! ## Cuts -/

theorem cut_eq_none {p : Char → Bool} (h : ∀ c ∈ cs, p c = false) : cut p cs = none := by
  induction cs with
  | nil => rfl
  | cons c cs ih =>
    obtain ⟨hc, hcs⟩ := List.forall_mem_cons.mp h
    simp [cut, hc, ih hcs]

theorem cut_append {p : Char → Bool} {sep : Char} (h : ∀ c ∈ cs, p c = false)
    (hsep : p sep = true) (rest : List Char) : cut p (cs ++ sep :: rest) = some (cs, rest) := by
  induction cs with
  | nil => simp [cut, hsep]
  | cons c cs ih =>
    obtain ⟨hc, hcs⟩ := List.forall_mem_cons.mp h
    simp [cut, hc, ih hcs]

theorem forall_of_cut_eq_none {p : Char → Bool} (h : cut p cs = none) : ∀ c ∈ cs, p c = false := by
  induction cs with
  | nil => exact fun c hc => absurd hc List.not_mem_nil
  | cons c cs ih =>
    unfold cut at h
    split at h
    · cases h
    · next hc =>
      exact List.forall_mem_cons.mpr ⟨by simpa using hc, ih (Option.map_eq_none_iff.mp h)⟩

/-- A text is cut at the first character of the kind. -/
theorem exists_of_cut_eq_some {p : Char → Bool} {before rest : List Char}
    (h : cut p cs = some (before, rest)) :
    ∃ sep, p sep = true ∧ cs = before ++ sep :: rest ∧ ∀ c ∈ before, p c = false := by
  induction cs generalizing before with
  | nil => cases h
  | cons c cs ih =>
    unfold cut at h
    split at h
    · next hc =>
      obtain ⟨rfl, rfl⟩ := Prod.mk.inj (Option.some.inj h)
      exact ⟨c, hc, rfl, by simp⟩
    · next hc =>
      obtain ⟨⟨tail, rest⟩, hcut, heq⟩ := Option.map_eq_some_iff.mp h
      obtain ⟨rfl, rfl⟩ := Prod.mk.inj heq
      obtain ⟨sep, hsep, rfl, htail⟩ := ih hcut
      exact ⟨sep, hsep, rfl, List.forall_mem_cons.mpr ⟨by simpa using hc, htail⟩⟩

theorem cutLast_append {sep : Char} {rest : List Char} (h : sep ∉ rest) (cs : List Char) :
    cutLast sep (cs ++ sep :: rest) = some (cs, rest) := by
  have hrest : ∀ c ∈ rest.reverse, (c == sep) = false := by
    intro c hc
    rw [beq_eq_false_iff_ne]
    rintro rfl
    exact h (List.mem_reverse.mp hc)
  rw [cutLast, List.reverse_append, List.reverse_cons, List.append_assoc, List.singleton_append,
    cut_append hrest (beq_self_eq_true sep)]
  simp

/-! ## Pieces and lines -/

theorem pieces_of_not_mem {sep : Char} (h : sep ∉ cs) : pieces sep cs = [cs] := by
  induction cs with
  | nil => rfl
  | cons c cs ih =>
    obtain ⟨hc, hcs⟩ := not_or.mp (List.mem_cons.not.mp h)
    simp [pieces, Ne.symm hc, ih hcs]

theorem pieces_cons_of_ne {sep c : Char} (h : c ≠ sep) (cs : List Char) :
    pieces sep (c :: cs) = (pieces sep cs).modifyHead (c :: ·) := by
  rw [pieces, if_neg h]
  cases hcs : pieces sep cs with
  | nil => exact absurd hcs (pieces_ne_nil sep cs)
  | cons p ps => rfl

theorem pieces_append (sep : Char) (cs rest : List Char) :
    pieces sep (cs ++ sep :: rest) = pieces sep cs ++ pieces sep rest := by
  induction cs with
  | nil => simp [pieces]
  | cons c cs ih =>
    by_cases hc : c = sep
    · simp [pieces, hc, ih]
    · rw [List.cons_append, pieces_cons_of_ne hc, pieces_cons_of_ne hc, ih]
      obtain ⟨p, ps, hps⟩ := List.exists_cons_of_ne_nil (pieces_ne_nil sep cs)
      rw [hps]
      rfl

theorem pieces_append_sep {sep : Char} (h : sep ∉ cs) (rest : List Char) :
    pieces sep (cs ++ sep :: rest) = cs :: pieces sep rest := by
  rw [pieces_append, pieces_of_not_mem h]
  rfl

theorem length_pieces (sep : Char) (cs : List Char) :
    (pieces sep cs).length = cs.count sep + 1 := by
  induction cs with
  | nil => rfl
  | cons c cs ih =>
    by_cases hc : c = sep
    · simp [pieces, hc, ih]
    · rw [pieces_cons_of_ne hc, List.length_modifyHead, ih, List.count_cons_of_ne hc]

theorem not_mem_of_mem_pieces {sep : Char} {piece : List Char} (h : piece ∈ pieces sep cs) :
    sep ∉ piece := by
  induction cs generalizing piece with
  | nil =>
    rw [List.mem_singleton.mp h]
    exact List.not_mem_nil
  | cons c cs ih =>
    by_cases hc : c = sep
    · rw [pieces, if_pos hc] at h
      rcases List.mem_cons.mp h with rfl | h
      · exact List.not_mem_nil
      · exact ih h
    · rw [pieces_cons_of_ne hc] at h
      obtain ⟨p, ps, hps⟩ := List.exists_cons_of_ne_nil (pieces_ne_nil sep cs)
      rw [hps, List.modifyHead_cons] at h
      rw [hps] at ih
      rcases List.mem_cons.mp h with rfl | h
      · have hp := ih List.mem_cons_self
        simp [Ne.symm hc, hp]
      · exact ih (List.mem_cons_of_mem _ h)

theorem lines_of_not_mem (h : '\n' ∉ line) (hne : line ≠ []) : lines line = [line] := by
  simp [lines, pieces_of_not_mem h, hne]

theorem lines_append_newline (h : '\n' ∉ line) (rest : List Char) :
    lines (line ++ '\n' :: rest) = withoutReturn line :: lines rest := by
  have hrest := pieces_ne_nil '\n' rest
  simp only [lines, pieces_append_sep h]
  rw [List.dropLast_cons_of_ne_nil hrest, List.getLast?_cons_of_ne_nil hrest]
  rfl

/-! ## Beginnings and endings -/

theorem after?_eq_ite (start cs : List Char) :
    after? start cs = if start <+: cs then some (cs.drop start.length) else none := by
  split
  · next h =>
    obtain ⟨rest, rfl⟩ := h
    rw [after?_append, List.drop_left]
  · next h =>
    rw [Option.eq_none_iff_forall_ne_some]
    intro rest hrest
    exact h ⟨rest, (eq_append_of_after? hrest).symm⟩

theorem before?_append (cs ending : List Char) : before? ending (cs ++ ending) = some cs := by
  rw [before?, List.reverse_append, after?_append]
  simp

theorem eq_append_of_before? {ending rest : List Char} (h : before? ending cs = some rest) :
    cs = rest ++ ending := by
  rw [before?, Option.map_eq_some_iff] at h
  obtain ⟨reversed, hreversed, rfl⟩ := h
  simpa using congrArg List.reverse (eq_append_of_after? hreversed)

theorem before?_eq_none_iff {ending : List Char} :
    before? ending cs = none ↔ ¬ ending <:+ cs := by
  constructor
  · rintro h ⟨rest, rfl⟩
    rw [before?_append] at h
    cases h
  · intro h
    rw [Option.eq_none_iff_forall_ne_some]
    intro rest hrest
    exact h ⟨rest, (eq_append_of_before? hrest).symm⟩

/-- Only a carriage return at the end can go. -/
theorem eq_withoutReturn_append (line : List Char) :
    line = withoutReturn line ∨ line = withoutReturn line ++ ['\r'] := by
  unfold withoutReturn
  cases h : before? ['\r'] line with
  | none => exact .inl rfl
  | some rest => exact .inr (eq_append_of_before? h)

/-! ## Parts with a separator between them -/

variable {α : Type} {sep last : List α} {parts : List (List α)}

theorem intercalate_concat (h : parts ≠ []) (last : List α) :
    sep.intercalate (parts ++ [last]) = sep.intercalate parts ++ sep ++ last := by
  induction parts with
  | nil => exact absurd rfl h
  | cons part parts ih =>
    rcases parts with _ | ⟨next, parts⟩
    · simp
    · rw [List.cons_append, List.intercalate_cons_of_ne_nil (by simp), ih (by simp),
        List.intercalate_cons_cons]
      simp only [List.append_assoc]

/-- The joined text begins as its first part does. -/
theorem head?_intercalate {part : List α} (h : part ≠ []) (parts : List (List α)) :
    (sep.intercalate (part :: parts)).head? = part.head? := by
  obtain ⟨a, part, rfl⟩ := List.exists_cons_of_ne_nil h
  cases parts <;> simp [List.intercalate_cons_of_ne_nil]

/-- The joined text ends as its last part does. -/
theorem getLast?_intercalate (hlast : last ∈ parts.getLast?) (h : last ≠ []) :
    (sep.intercalate parts).getLast? = last.getLast? := by
  have hsplit : parts.dropLast ++ [last] = parts := List.dropLast_append_getLast? last hlast
  rw [← hsplit]
  by_cases hinit : parts.dropLast = []
  · simp [hinit]
  · rw [intercalate_concat hinit, List.getLast?_append_of_ne_nil _ h]

/-- The joined text falls into the pieces of its parts. -/
theorem pieces_intercalate {parts : List (List Char)} (h : parts ≠ []) (sep : Char) :
    pieces sep ([sep].intercalate parts) = parts.flatMap (pieces sep) := by
  induction parts with
  | nil => exact absurd rfl h
  | cons part parts ih =>
    rcases parts with _ | ⟨next, parts⟩
    · simp
    · rw [List.intercalate_cons_cons, List.append_assoc, List.singleton_append, pieces_append,
        ih (by simp)]
      rfl

/-- Parts without the separator are the pieces of the joined text. -/
theorem pieces_intercalate_of_not_mem {parts : List (List Char)} {sep : Char} (h : parts ≠ [])
    (hsep : ∀ part ∈ parts, sep ∉ part) : pieces sep ([sep].intercalate parts) = parts := by
  have hpieces : ∀ part ∈ parts, pieces sep part = [part] :=
    fun part hpart => pieces_of_not_mem (hsep part hpart)
  rw [pieces_intercalate h, List.flatMap_congr hpieces, List.flatMap_singleton']

/-! ## Joined strings -/

theorem piecesOf_of_not_mem {sep : Char} {s : String} (h : sep ∉ s.toList) :
    piecesOf sep s = [s] := by
  rw [piecesOf, pieces_of_not_mem h, List.map_singleton, String.ofList_toList]

theorem flatMap_piecesOf_of_not_mem {sep : Char} {parts : List String}
    (h : ∀ s ∈ parts, sep ∉ s.toList) : parts.flatMap (piecesOf sep) = parts := by
  induction parts with
  | nil => rfl
  | cons s parts ih =>
    obtain ⟨hs, hparts⟩ := List.forall_mem_cons.mp h
    rw [List.flatMap_cons, piecesOf_of_not_mem hs, ih hparts]
    rfl

theorem piecesOf_join {sep : Char} {text : String} (hsep : text.toList = [sep])
    {parts : List String} (h : parts ≠ []) :
    piecesOf sep (join text parts) = parts.flatMap (piecesOf sep) := by
  have hparts : parts.map String.toList ≠ [] := by simpa using h
  rw [piecesOf, join, String.toList_ofList, hsep, pieces_intercalate hparts, List.flatMap_map,
    List.map_flatMap]
  rfl

/-- Strings without the separator are the pieces of the joined string. -/
theorem piecesOf_join_of_not_mem {sep : Char} {text : String} (hsep : text.toList = [sep])
    {parts : List String} (h : parts ≠ []) (hparts : ∀ s ∈ parts, sep ∉ s.toList) :
    piecesOf sep (join text parts) = parts := by
  rw [piecesOf_join hsep h, flatMap_piecesOf_of_not_mem hparts]

end RouteMap.Text
