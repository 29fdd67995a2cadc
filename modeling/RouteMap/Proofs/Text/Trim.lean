import Mathlib.Data.List.DropRight
import RouteMap.Text.Alphabetic
import RouteMap.Text.Blank

/-!
# Laws of trimming

Blanks put at either end of a text do not change what `trim` makes of it, and a text
is its own trimmed form when it neither begins nor ends with a blank
(`trim_eq_self_iff`); such a text comes back from between blanks (`trimmed_around`).
Alphabetic characters and digits are not blank.
-/

namespace RouteMap.Text

variable {c : Char} {cs bs : List Char}

/-- A text of blanks only. -/
abbrev Blank (cs : List Char) : Prop := ∀ c ∈ cs, isBlank c = true

theorem blank_nil : Blank [] := by
  intro c hc
  cases hc

theorem blank_singleton (h : isBlank c = true) : Blank [c] := by
  intro b hb
  rwa [List.mem_singleton.mp hb]

theorem Blank.append (hcs : Blank cs) (hbs : Blank bs) : Blank (cs ++ bs) := by
  intro c hc
  rcases List.mem_append.mp hc with hc | hc
  · exact hcs c hc
  · exact hbs c hc

/-! ## One end -/

theorem trimStart_append_of_blank (h : Blank bs) (cs : List Char) :
    trimStart (bs ++ cs) = trimStart cs :=
  List.dropWhile_append_of_pos h

theorem trimStart_cons (h : isBlank c = false) (cs : List Char) :
    trimStart (c :: cs) = c :: cs := by
  simp [trimStart, h]

theorem trimStart_eq_nil_iff : trimStart cs = [] ↔ Blank cs :=
  List.dropWhile_eq_nil_iff

theorem trimStart_isSuffix (cs : List Char) : trimStart cs <:+ cs :=
  List.dropWhile_suffix isBlank

theorem trimStart_eq_self_iff : trimStart cs = cs ↔ ∀ c ∈ cs.head?, isBlank c = false := by
  cases cs with
  | nil => simp
  | cons a cs =>
    rw [trimStart, List.dropWhile_eq_self_iff]
    simp

/-- Where something is left, the blanks at the start go and what follows stays. -/
theorem trimStart_append (h : ¬ Blank cs) (ds : List Char) :
    trimStart (cs ++ ds) = trimStart cs ++ ds := by
  have hne : (cs.dropWhile isBlank).isEmpty = false := by
    rw [List.isEmpty_eq_false_iff]
    exact fun hnil => h (trimStart_eq_nil_iff.mp hnil)
  simp [trimStart, List.dropWhile_append, hne]

theorem trimEnd_append_of_blank (h : Blank bs) (cs : List Char) :
    trimEnd (cs ++ bs) = trimEnd cs := by
  have hreverse : Blank bs.reverse := fun c hc => h c (List.mem_reverse.mp hc)
  simp only [trimEnd, List.reverse_append]
  rw [List.dropWhile_append_of_pos hreverse]

theorem trimEnd_cons (h : isBlank c = false) (cs : List Char) :
    trimEnd (c :: cs) = c :: trimEnd cs := by
  simp only [trimEnd, List.reverse_cons, List.dropWhile_append]
  split
  · next hempty => simp [List.isEmpty_iff.mp hempty, h]
  · simp

theorem trimEnd_isPrefix (cs : List Char) : trimEnd cs <+: cs :=
  List.rdropWhile_prefix isBlank cs

theorem trimEnd_eq_self_iff : trimEnd cs = cs ↔ ∀ c ∈ cs.getLast?, isBlank c = false := by
  change cs.rdropWhile isBlank = cs ↔ _
  rw [List.rdropWhile_eq_self_iff]
  constructor
  · intro h c hc
    obtain ⟨hne, rfl⟩ := List.mem_getLast?_eq_getLast hc
    simpa using h hne
  · intro h hne
    simpa using h _ (List.getLast?_eq_some_getLast hne)

/-- A text without blanks at its end loses nothing when more follows it. -/
theorem trimEnd_append (h : trimEnd cs = cs) (ds : List Char) :
    trimEnd (cs ++ ds) = cs ++ trimEnd ds := by
  have hreverse : cs.reverse.dropWhile isBlank = cs.reverse := by
    rw [← List.reverse_inj, List.reverse_reverse]
    exact h
  simp only [trimEnd, List.reverse_append, List.dropWhile_append, hreverse]
  split
  · next hempty => simp [List.isEmpty_iff.mp hempty]
  · simp

theorem exists_trimEnd_append_blank (cs : List Char) :
    ∃ bs, Blank bs ∧ cs = trimEnd cs ++ bs :=
  ⟨cs.rtakeWhile isBlank, fun _ hc => List.mem_rtakeWhile_imp hc,
    List.rdropWhile_append_rtakeWhile.symm⟩

/-! ## Both ends -/

theorem trim_of_blank (h : Blank cs) : trim cs = [] := by
  rw [trim, trimStart_eq_nil_iff.mpr h, trimEnd_nil]

theorem trim_blank_append (h : Blank bs) (cs : List Char) : trim (bs ++ cs) = trim cs := by
  rw [trim, trimStart_append_of_blank h, trim]

theorem trim_append_of_blank (h : Blank bs) (cs : List Char) : trim (cs ++ bs) = trim cs := by
  by_cases hcs : Blank cs
  · rw [trim_of_blank (hcs.append h), trim_of_blank hcs]
  · rw [trim, trimStart_append hcs, trimEnd_append_of_blank h, trim]

/-- A trimmed text is trimmed at its start and at its end. -/
theorem trimStart_eq_self_of_trim (h : trim cs = cs) : trimStart cs = cs := by
  refine (trimStart_isSuffix cs).eq_of_length_le ?_
  calc cs.length = (trim cs).length := by rw [h]
    _ ≤ (trimStart cs).length := (trimEnd_isPrefix _).length_le

theorem trim_eq_self_iff :
    trim cs = cs ↔
      (∀ c ∈ cs.head?, isBlank c = false) ∧ ∀ c ∈ cs.getLast?, isBlank c = false := by
  rw [← trimStart_eq_self_iff, ← trimEnd_eq_self_iff]
  constructor
  · intro h
    have hstart := trimStart_eq_self_of_trim h
    rw [trim, hstart] at h
    exact ⟨hstart, h⟩
  · rintro ⟨hstart, hend⟩
    rw [trim, hstart, hend]

theorem trim_eq_self_of_forall (h : ∀ c ∈ cs, isBlank c = false) : trim cs = cs := by
  rw [trim_eq_self_iff]
  exact ⟨fun c hc => h c (List.mem_of_mem_head? hc), fun c hc => h c (List.mem_of_mem_getLast? hc)⟩

theorem mem_of_mem_trim (h : c ∈ trim cs) : c ∈ cs :=
  (trimStart_isSuffix cs).subset ((trimEnd_isPrefix _).subset h)

theorem trim_trimStart (cs : List Char) : trim (trimStart cs) = trim cs :=
  congrArg trimEnd (List.dropWhile_idempotent isBlank cs)

theorem trim_trimEnd (cs : List Char) : trim (trimEnd cs) = trim cs := by
  obtain ⟨bs, hbs, hcs⟩ := exists_trimEnd_append_blank cs
  rw [← trim_append_of_blank hbs (trimEnd cs), ← hcs]

theorem trim_trim (cs : List Char) : trim (trim cs) = trim cs :=
  (trim_trimEnd (trimStart cs)).trans (trim_trimStart cs)

/-- A trimmed text has no blank at its ends. -/
theorem isBlank_ends_trim (cs : List Char) :
    (∀ c ∈ (trim cs).head?, isBlank c = false) ∧ ∀ c ∈ (trim cs).getLast?, isBlank c = false :=
  trim_eq_self_iff.mp (trim_trim cs)

/-- A character that is not blank keeps what stands on its two sides apart. -/
theorem trim_append_cons (h : isBlank c = false) (cs ds : List Char) :
    trim (cs ++ c :: ds) = trimStart cs ++ c :: trimEnd ds := by
  have hstart : trimStart (cs ++ c :: ds) = trimStart cs ++ c :: ds := by
    by_cases hcs : Blank cs
    · rw [trimStart_append_of_blank hcs, trimStart_cons h, trimStart_eq_nil_iff.mpr hcs,
        List.nil_append]
    · exact trimStart_append hcs _
  have hend : trimEnd (trimStart cs ++ [c]) = trimStart cs ++ [c] :=
    trimEnd_eq_self_iff.mpr (by simpa using h)
  rw [trim, hstart, List.append_cons, trimEnd_append hend, ← List.append_cons]

/-! ## Characters that are not blank -/

/-- The blank characters, one by one. -/
def blanks : List Char :=
  ((List.range' 9 5 ++ [0x20, 0x85, 0xA0, 0x1680]) ++
    (List.range' 0x2000 11 ++ [0x2028, 0x2029, 0x202F, 0x205F, 0x3000])).map Char.ofNat

theorem mem_blanks (h : isBlank c = true) : c ∈ blanks := by
  refine List.mem_map.mpr ⟨c.toNat, ?_, Char.ofNat_toNat c⟩
  simp only [isBlank, Bool.or_eq_true, Bool.and_eq_true, decide_eq_true_eq, beq_iff_eq] at h
  simp only [List.mem_append, List.mem_range'_1, List.mem_cons, List.not_mem_nil, or_false]
  omega

/-- A class of characters that has none of the blank ones. -/
theorem isBlank_of_class {p : Char → Bool} (hclass : blanks.any p = false) (h : p c = true) :
    isBlank c = false := by
  by_contra hblank
  have hany := List.any_eq_true.mpr ⟨c, mem_blanks (by simpa using hblank), h⟩
  rw [hclass] at hany
  cases hany

theorem isBlank_of_isAlphabetic (h : isAlphabetic c = true) : isBlank c = false :=
  isBlank_of_class (p := isAlphabetic) (by decide +kernel) h

theorem isBlank_of_isDigit (h : c.isDigit = true) : isBlank c = false :=
  isBlank_of_class (p := Char.isDigit) (by decide +kernel) h

/-! ## Texts between blanks -/

/-- Blanks that stand around a text. -/
structure Padding where
  before : List Char := []
  after : List Char := []
  blank_before : before.all isBlank = true := by decide
  blank_after : after.all isBlank = true := by decide

/-- A text between blanks. -/
def Padding.around (p : Padding) (s : String) : String :=
  String.ofList (p.before ++ s.toList ++ p.after)

theorem trimmed_around (p : Padding) {s : String} (h : trim s.toList = s.toList) :
    trimmed (p.around s) = s := by
  have hbefore : Blank p.before := List.all_eq_true.mp p.blank_before
  have hafter : Blank p.after := List.all_eq_true.mp p.blank_after
  rw [trimmed, Padding.around, String.toList_ofList, trim_append_of_blank hafter,
    trim_blank_append hbefore, h, String.ofList_toList]

/-- Every text is its trimmed form between blanks. -/
theorem exists_around_trimmed (s : String) : ∃ p : Padding, p.around (trimmed s) = s := by
  obtain ⟨after, hafter, htrim⟩ := exists_trimEnd_append_blank (trimStart s.toList)
  refine ⟨⟨s.toList.takeWhile isBlank, after, List.all_takeWhile, List.all_eq_true.mpr hafter⟩, ?_⟩
  have hs : s.toList.takeWhile isBlank ++ trimStart s.toList = s.toList :=
    List.takeWhile_append_dropWhile
  rw [Padding.around, toList_trimmed, trim, List.append_assoc, ← htrim, hs, String.ofList_toList]

end RouteMap.Text
