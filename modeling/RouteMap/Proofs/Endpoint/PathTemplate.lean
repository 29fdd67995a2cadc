import RouteMap.Endpoint.PathTemplate
import RouteMap.Proofs.Text.Pattern

/-!
# Placeholders are found exactly

The placeholders of a template are its occurrences of a name in braces, each once and from left
to right (`mem_occurrences_iff`, `pairwise_occurrences`), whatever other braces there are. A
search for the pattern of a placeholder, which goes on behind each match and may divide a name
among its pieces in several ways, finds the same names (`search_pattern`): no name holds a
brace, so no match reaches over the beginning of another one.
-/

namespace RouteMap.PathTemplate

open Text (Pattern Piece isWord)

variable {cs name rest : List Char}

/-! ## Names -/

/-- The names of placeholders: word characters with at most one hyphen among them. -/
structure IsName (name : List Char) : Prop where
  chars : ∀ c ∈ name, isWord c = true ∨ c = '-'
  hyphens : name.count '-' ≤ 1

theorem isWord_ne_of_not {c d : Char} (hc : isWord c = true) (hd : isWord d = false) : c ≠ d := by
  rintro rfl
  rw [hc] at hd
  cases hd

theorem IsName.not_mem {c : Char} (h : IsName name) (hword : isWord c = false) (hne : c ≠ '-') :
    c ∉ name := by
  intro hmem
  rcases h.chars c hmem with hc | hc
  · exact isWord_ne_of_not hc hword rfl
  · exact hne hc

/-- A name is read exactly where one stands in front of a closing brace. -/
theorem name?_eq_some_iff :
    name? cs = some name ↔ IsName name ∧ ∃ rest, cs = name ++ '\x7d' :: rest := by
  have hclose : (isWord '\x7d' || '\x7d' = '-') = false := by decide
  simp only [name?, Option.ite_none_right_eq_some, Option.some.injEq]
  constructor
  · rintro ⟨⟨hhead, hcount⟩, rfl⟩
    refine ⟨⟨?_, hcount⟩, ?_⟩
    · intro c hc
      simpa using List.all_eq_true.mp List.all_takeWhile c hc
    · obtain ⟨rest, hrest⟩ := List.head?_eq_some_iff.mp hhead
      exact ⟨rest, by rw [← hrest, List.takeWhile_append_dropWhile]⟩
  · rintro ⟨hname, rest, rfl⟩
    have hall : ∀ c ∈ name, (isWord c || c = '-') = true := fun c hc => by
      simpa using hname.chars c hc
    rw [List.takeWhile_append_of_pos hall, List.dropWhile_append_of_pos hall,
      List.takeWhile_cons_of_neg (by simpa using hclose),
      List.dropWhile_cons_of_neg (by simpa using hclose), List.append_nil]
    simp [hname.hyphens]

/-! ## Occurrences -/

/-- At a place of a text stands a name in braces. -/
structure OccursAt (cs : List Char) (place : Nat) (name : List Char) : Prop where
  isName : IsName name
  text : '\x7b' :: (name ++ ['\x7d']) <+: cs.drop place

/-- The placeholders of a text with their places, where the text begins at place `i`. -/
def occurrences : (i : Nat) → List Char → List (Nat × List Char)
  | _, [] => []
  | i, c :: cs =>
    (if c = '\x7b' then (name? cs).toList.map fun name => (i, name) else [])
      ++ occurrences (i + 1) cs

theorem placeholders_eq_map_occurrences (cs : List Char) (i : Nat) :
    placeholders cs = (occurrences i cs).map Prod.snd := by
  induction cs generalizing i with
  | nil => rfl
  | cons c cs ih =>
    rw [placeholders, occurrences, List.map_append, ← ih (i + 1)]
    by_cases hc : c = '\x7b'
    · rw [if_pos hc, if_pos hc, List.map_map]
      cases name? cs <;> rfl
    · rw [if_neg hc, if_neg hc]
      rfl

theorem occursAt_zero_iff {c : Char} :
    OccursAt (c :: cs) 0 name ↔ c = '\x7b' ∧ name? cs = some name := by
  rw [name?_eq_some_iff]
  constructor
  · rintro ⟨hname, after, hafter⟩
    obtain ⟨rfl, rfl⟩ := List.cons.inj hafter
    exact ⟨rfl, hname, after, by simp⟩
  · rintro ⟨rfl, hname, rest, rfl⟩
    exact ⟨hname, rest, by simp⟩

theorem occursAt_succ_iff {c : Char} {k : Nat} :
    OccursAt (c :: cs) (k + 1) name ↔ OccursAt cs k name :=
  ⟨fun h => ⟨h.isName, h.text⟩, fun h => ⟨h.isName, h.text⟩⟩

/-- Nothing that occurs is missing, and nothing else is there. -/
theorem mem_occurrences_iff {i place : Nat} :
    (place, name) ∈ occurrences i cs ↔ ∃ k, place = i + k ∧ OccursAt cs k name := by
  induction cs generalizing i with
  | nil =>
    simp only [occurrences, List.not_mem_nil, false_iff, not_exists, not_and]
    rintro k - ⟨-, htext⟩
    simp at htext
  | cons c cs ih =>
    rw [occurrences, List.mem_append, ih]
    constructor
    · rintro (h | ⟨k, rfl, hk⟩)
      · by_cases hc : c = '\x7b'
        · rw [if_pos hc] at h
          obtain ⟨name', hname', heq⟩ := List.mem_map.mp h
          obtain ⟨rfl, rfl⟩ := Prod.mk.inj heq
          exact ⟨0, rfl, occursAt_zero_iff.mpr ⟨hc, Option.mem_toList.mp hname'⟩⟩
        · rw [if_neg hc] at h
          cases h
      · exact ⟨k + 1, by omega, occursAt_succ_iff.mpr hk⟩
    · rintro ⟨k, rfl, hk⟩
      cases k with
      | zero =>
        obtain ⟨hc, hname⟩ := occursAt_zero_iff.mp hk
        rw [if_pos hc, hname]
        exact .inl List.mem_cons_self
      | succ k => exact .inr ⟨k, by omega, occursAt_succ_iff.mp hk⟩

theorem le_of_mem_occurrences {i : Nat} {p : Nat × List Char} (h : p ∈ occurrences i cs) :
    i ≤ p.1 := by
  obtain ⟨place, name⟩ := p
  obtain ⟨k, rfl, -⟩ := mem_occurrences_iff.mp h
  exact Nat.le_add_right i k

/-- Each occurrence is there once, from left to right. -/
theorem pairwise_occurrences (i : Nat) (cs : List Char) :
    (occurrences i cs).Pairwise fun p q => p.1 < q.1 := by
  induction cs generalizing i with
  | nil => exact .nil
  | cons c cs ih =>
    rw [occurrences, List.pairwise_append]
    refine ⟨?_, ih (i + 1), ?_⟩
    · split
      · cases name? cs <;> simp
      · exact .nil
    · intro p hp q hq
      have hplace : p.1 = i := by
        split at hp
        · obtain ⟨name, -, rfl⟩ := List.mem_map.mp hp
          rfl
        · cases hp
      have hbehind := le_of_mem_occurrences hq
      omega

/-! ## The search for a pattern -/

/-- The pattern of a placeholder: a brace, word characters, perhaps a hyphen, perhaps a low line,
word characters, a brace. -/
def pattern : Pattern :=
  [.one (· == '\x7b'), .many isWord, .atMostOne (· == '-'), .atMostOne (· == '_'), .many isWord,
    .one (· == '\x7d')]

/-- What the pieces between the two braces take. -/
def content (parts : List (List Char)) : List Char := parts.tail.dropLast.flatten

theorem hyphen_not_mem_of_isWord (h : ∀ c ∈ cs, isWord c = true) : '-' ∉ cs := by
  intro hmem
  exact absurd (h _ hmem) (by decide)

/-- However a placeholder is divided among the pieces, it is a name in braces. -/
theorem isName_content {parts : List (List Char)} (h : List.Forall₂ Piece.Takes pattern parts) :
    IsName (content parts) ∧ parts.flatten = '\x7b' :: (content parts ++ ['\x7d']) := by
  simp only [pattern, List.forall₂_cons_left_iff, List.forall₂_nil_left_iff] at h
  obtain ⟨opening, _, hopening, ⟨front, _, hfront, ⟨hyphen, _, hhyphen, ⟨line, _, hline,
    ⟨back, _, hback, ⟨closing, _, hclosing, rfl, rfl⟩, rfl⟩, rfl⟩, rfl⟩, rfl⟩, rfl⟩ := h
  obtain rfl : opening = ['\x7b'] := by
    cases hopening with
    | one hc => rw [beq_iff_eq.mp hc]
  obtain rfl : closing = ['\x7d'] := by
    cases hclosing with
    | one hc => rw [beq_iff_eq.mp hc]
  have hfront : ∀ c ∈ front, isWord c = true := by
    cases hfront with
    | many hall => exact hall
  have hback : ∀ c ∈ back, isWord c = true := by
    cases hback with
    | many hall => exact hall
  have hline : ∀ c ∈ line, isWord c = true := by
    cases hline with
    | none => simp
    | some hc =>
      intro c hmem
      rw [List.mem_singleton.mp hmem, beq_iff_eq.mp hc]
      decide
  have hhyphen : hyphen = [] ∨ hyphen = ['-'] := by
    cases hhyphen with
    | none => exact .inl rfl
    | some hc => exact .inr (by rw [beq_iff_eq.mp hc])
  have hcontent : content [['\x7b'], front, hyphen, line, back, ['\x7d']] =
      front ++ (hyphen ++ (line ++ back)) := by
    simp [content]
  rw [hcontent]
  refine ⟨⟨?_, ?_⟩, by simp⟩
  · intro c hc
    simp only [List.mem_append] at hc
    rcases hc with hc | hc | hc | hc
    · exact .inl (hfront c hc)
    · rcases hhyphen with rfl | rfl
      · cases hc
      · exact .inr (List.mem_singleton.mp hc)
    · exact .inl (hline c hc)
    · exact .inl (hback c hc)
  · -- only the second piece can take a hyphen
    simp only [List.count_append, List.count_eq_zero_of_not_mem (hyphen_not_mem_of_isWord hfront),
      List.count_eq_zero_of_not_mem (hyphen_not_mem_of_isWord hline),
      List.count_eq_zero_of_not_mem (hyphen_not_mem_of_isWord hback)]
    rcases hhyphen with rfl | rfl <;> simp

/-- Every name in braces can be divided among the pieces. -/
theorem exists_parts (h : IsName name) :
    ∃ parts, List.Forall₂ Piece.Takes pattern parts ∧ content parts = name := by
  by_cases hmem : '-' ∈ name
  · -- the first piece takes what is in front of the hyphen, the last one what is behind it
    obtain ⟨front, back, rfl⟩ := List.append_of_mem hmem
    have hcount := h.hyphens
    rw [List.count_append, List.count_cons_self] at hcount
    have hword : ∀ c ∈ front ++ back, isWord c = true := by
      intro c hc
      have hne : c ≠ '-' := by
        rintro rfl
        have hpos : 0 < (front ++ back).count '-' := List.count_pos_iff.mpr hc
        rw [List.count_append] at hpos
        omega
      have hin : c ∈ front ++ '-' :: back := by
        rcases List.mem_append.mp hc with hc | hc
        · exact List.mem_append_left _ hc
        · exact List.mem_append_right _ (List.mem_cons_of_mem _ hc)
      exact (h.chars c hin).resolve_right hne
    refine ⟨[['\x7b'], front, ['-'], [], back, ['\x7d']], ?_, by simp [content]⟩
    exact .cons (.one rfl) (.cons (.many fun c hc => hword c (List.mem_append_left _ hc))
      (.cons (.some rfl) (.cons .none (.cons (.many fun c hc =>
        hword c (List.mem_append_right _ hc)) (.cons (.one rfl) .nil)))))
  · have hword : ∀ c ∈ name, isWord c = true := by
      intro c hc
      refine (h.chars c hc).resolve_right ?_
      rintro rfl
      exact hmem hc
    refine ⟨[['\x7b'], name, [], [], [], ['\x7d']], ?_, by simp [content]⟩
    exact .cons (.one rfl) (.cons (.many hword) (.cons .none (.cons .none
      (.cons (.many (by simp)) (.cons (.one rfl) .nil)))))

/-- Where the pattern has no way, no name in braces begins. -/
theorem name?_eq_none_of_ways (h : (pattern.ways ('\x7b' :: cs)).head? = none) :
    name? cs = none := by
  rw [Option.eq_none_iff_forall_ne_some]
  intro name hread
  obtain ⟨hname, rest, rfl⟩ := name?_eq_some_iff.mp hread
  obtain ⟨parts, htakes, rfl⟩ := exists_parts hname
  have hway : (parts, rest) ∈ pattern.ways ('\x7b' :: (content parts ++ '\x7d' :: rest)) := by
    rw [Pattern.mem_ways_iff, (isName_content htakes).2]
    exact ⟨by simp, htakes⟩
  rw [List.head?_eq_none_iff] at h
  rw [h] at hway
  cases hway

/-- The preferred way, like any other, takes the name in braces that begins there. -/
theorem head?_ways_eq_some {c : Char} {parts : List (List Char)}
    (h : (pattern.ways (c :: cs)).head? = some (parts, rest)) :
    c = '\x7b' ∧ name? cs = some (content parts) ∧ cs = content parts ++ '\x7d' :: rest ∧
      parts.flatten.length - 1 = (content parts).length + 1 := by
  obtain ⟨hcs, htakes⟩ := Pattern.mem_ways_iff.mp (List.mem_of_mem_head? h)
  obtain ⟨hname, hflatten⟩ := isName_content htakes
  rw [hflatten, List.cons_append, List.append_assoc] at hcs
  obtain ⟨rfl, rfl⟩ := List.cons.inj hcs
  refine ⟨rfl, name?_eq_some_iff.mpr ⟨hname, rest, rfl⟩, rfl, ?_⟩
  rw [hflatten]
  simp

theorem placeholders_append (h : '\x7b' ∉ cs) (rest : List Char) :
    placeholders (cs ++ rest) = placeholders rest := by
  induction cs with
  | nil => rfl
  | cons c cs ih =>
    obtain ⟨hc, hcs⟩ := not_or.mp (List.mem_cons.not.mp h)
    rw [List.cons_append, placeholders, if_neg (Ne.symm hc), ih hcs]

/-- **The search finds the placeholders.** What stands between the braces of its matches, behind
the characters that it skips, are the names of the placeholders there. -/
theorem search_pattern (skip : Nat) (cs : List Char) :
    (pattern.search skip cs).map content = placeholders (cs.drop skip) := by
  induction cs generalizing skip with
  | nil => cases skip <;> rfl
  | cons c cs ih =>
    cases skip with
    | succ skip => exact ih skip
    | zero =>
      rw [Pattern.search, List.drop_zero, placeholders]
      cases hhead : (pattern.ways (c :: cs)).head? with
      | none =>
        simp only [ih 0, List.drop_zero]
        split
        · next hc =>
          rw [name?_eq_none_of_ways (hc ▸ hhead)]
          rfl
        · rfl
      | some way =>
        obtain ⟨parts, rest⟩ := way
        obtain ⟨rfl, hname, hcs, hlength⟩ := head?_ways_eq_some hhead
        have hbrace : '\x7b' ∉ content parts ++ ['\x7d'] := by
          obtain ⟨hcontent, -⟩ := name?_eq_some_iff.mp hname
          simp [hcontent.not_mem (c := '\x7b') (by decide) (by decide)]
        -- no placeholder begins within the match, so none is skipped with it
        have hskip : placeholders cs = placeholders rest := by
          rw [hcs, ← placeholders_append hbrace rest, List.append_assoc]
          rfl
        have hrest : cs.drop ((content parts).length + 1) = rest := by
          rw [hcs]
          simp
        simp only [List.map_cons, ih, hlength, hrest, hname, ↓reduceIte, Option.toList_some,
          hskip, List.cons_append, List.nil_append]

/-! ## Path variables -/

/-- **Placeholders are found exactly.** There is one list of places and names, from left to right
and without repetition, that has exactly the names in braces of the template. A search for the
pattern of a placeholder, leftmost first and without overlaps, finds these names. The path
variables of the template are those of them for which there is a tag with an expression. -/
theorem pathVariables_exact (template : String) (tags : Tag.Index) :
    ∃ found : List (Nat × List Char),
      found.Pairwise (fun p q => p.1 < q.1) ∧
      (∀ place name, (place, name) ∈ found ↔ OccursAt template.toList place name) ∧
      (pattern.search 0 template.toList).map content = found.map Prod.snd ∧
      pathVariables template tags = found.filterMap fun (_, name) =>
        (tags.get? ("apifest.re." ++ String.ofList name)).map fun expression =>
          { name := String.ofList name, expression } := by
  refine ⟨occurrences 0 template.toList, pairwise_occurrences 0 _, ?_, ?_, ?_⟩
  · intro place name
    rw [mem_occurrences_iff]
    simp
  · rw [search_pattern, List.drop_zero, placeholders_eq_map_occurrences _ 0]
  · unfold pathVariables
    rw [placeholders_eq_map_occurrences _ 0, List.filterMap_map]
    rfl

/-- A brace that closes nothing and a second hyphen hide no placeholder behind them. -/
example : placeholders "/\x7b\x7ba-b\x7d/\x7bc--d\x7d\x7b\x7d\x7d".toList = ["a-b".toList, []] := by
  decide +kernel

end RouteMap.PathTemplate
