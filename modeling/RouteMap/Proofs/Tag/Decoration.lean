import RouteMap.Proofs.Text.Lines
import RouteMap.Proofs.Text.Trim
import RouteMap.Tag.Comment

/-!
# The decoration of a comment

A line of a comment is a text behind an indentation and one of four decorations. For a
text that cannot be taken for decoration itself (`Plain`) all of them are gone from the
line once it is read, and the text is left (`Layout.undecorated_line`). The closing of
the comment after a blank takes nothing from it, and makes no line open a tag that did
not.
-/

namespace RouteMap.Tag

open Text

/-- What may stand before the text of a line. -/
inductive Decoration
  | none
  | star
  | slashes
  | bang
deriving DecidableEq, Repr

/-- The characters of a decoration. -/
def Decoration.marks : Decoration → List Char
  | none => []
  | star => ['*', ' ']
  | slashes => ['/', '/', '/', ' ']
  | bang => ['/', '/', '!', ' ']

/-- How a line is laid out: its indentation of spaces and tabs, its decoration, and
whether a carriage return stands before its line feed. -/
structure Layout where
  indent : List Char
  decoration : Decoration
  returns : Bool
  indented : ∀ c ∈ indent, c = ' ' ∨ c = '\t'

/-- The line of a text, without its end. -/
def Layout.line (layout : Layout) (text : List Char) : List Char :=
  layout.indent ++ (layout.decoration.marks ++ text)

/-- The end of a comment. -/
abbrev closing : List Char := ['*', '/']

/-- The beginnings that a line loses. -/
def openings : List (List Char) :=
  [['*'], ['/', '*', '*'], ['/', '/', '/'], ['/', '/', '!']]

/-- A text that no part of is taken for decoration when it is a whole line. -/
structure Plain (text : List Char) : Prop where
  trimmed : trim text = text
  unopened : ∀ mark ∈ openings, ¬ mark <+: text
  unclosed : ¬ closing <:+ text

variable {line text bs : List Char}

/-! ## The steps -/

theorem withoutOpening_of_unopened (h : ∀ mark ∈ openings, ¬ mark <+: text) :
    withoutOpening text = text := by
  simp only [openings, List.forall_mem_cons] at h
  obtain ⟨-, hstars, hslashes, hbang, -⟩ := h
  unfold withoutOpening
  split
  · exact absurd (by simp) hstars
  · exact absurd (by simp) hslashes
  · exact absurd (by simp) hbang
  · rfl

/-- An opening has no blanks in it: it does not reach beyond the first one. -/
theorem withoutOpening_append_blank {b : Char} (h : isBlank b = true) (line rest : List Char) :
    withoutOpening (line ++ b :: rest) = withoutOpening line ++ b :: rest := by
  have hslash : b ≠ '/' := by rintro rfl; exact absurd h (by decide)
  have hstar : b ≠ '*' := by rintro rfl; exact absurd h (by decide)
  have hbang : b ≠ '!' := by rintro rfl; exact absurd h (by decide)
  match line with
  | [] => simp [withoutOpening, hslash]
  | [a] => simp [withoutOpening, hslash, hstar]
  | [a₁, a₂] => simp [withoutOpening, hslash, hstar, hbang]
  | a₁ :: a₂ :: a₃ :: line =>
    simp only [List.cons_append]
    unfold withoutOpening
    split <;> split <;> simp_all

theorem withoutClosing_of_unclosed (h : ¬ closing <:+ line) : withoutClosing line = line := by
  rw [withoutClosing, before?_eq_none_iff.mpr h, Option.getD_none]

theorem withoutClosing_append (line : List Char) : withoutClosing (line ++ closing) = line := by
  rw [withoutClosing, before?_append, Option.getD_some]

/-- A closing has no blanks in it: it stands behind the last one. -/
theorem closing_suffix_of_blank {b : Char} (hb : isBlank b = true) (line : List Char) :
    closing <:+ line ++ b :: text → closing <:+ text := by
  have hstar : '*' ≠ b := by rintro rfl; exact absurd hb (by decide)
  have hslash : '/' ≠ b := by rintro rfl; exact absurd hb (by decide)
  intro h
  induction line with
  | nil => simpa [List.suffix_cons_iff, hstar] using h
  | cons a line ih =>
    rcases List.suffix_cons_iff.mp h with heq | hsuffix
    · obtain ⟨-, htail⟩ := List.cons.inj heq
      cases line <;> simp [hslash] at htail
    · exact ih hsuffix

theorem withoutStar_append (h : line ≠ []) (rest : List Char) :
    withoutStar (line ++ rest) = withoutStar line ++ rest := by
  obtain ⟨a, line, rfl⟩ := List.exists_cons_of_ne_nil h
  by_cases ha : a = '*'
  · subst ha
    rfl
  · simp [withoutStar, ha]

/-! ## Whole lines -/

theorem undecorated_blank_append (h : Blank bs) (line : List Char) :
    undecorated (bs ++ line) = undecorated line := by
  rw [undecorated, trim_blank_append h, undecorated]

theorem undecorated_append_blank (h : Blank bs) (line : List Char) :
    undecorated (line ++ bs) = undecorated line := by
  rw [undecorated, trim_append_of_blank h, undecorated]

/-- A line that a blank and the closing follow, less its opening. -/
theorem withoutOpening_trim_closed (hline : ¬ Blank line) (hbs : Blank bs) (hne : bs ≠ []) :
    ∃ gap, Blank gap ∧
      withoutOpening (trim (line ++ (bs ++ closing))) =
        withoutOpening (trim line) ++ gap ++ closing := by
  -- the blanks that the line ends with now stand in front of the closing, and stay
  obtain ⟨ends, hends, hstart⟩ := exists_trimEnd_append_blank (trimStart line)
  have hnil : ends ++ bs ≠ [] := by simp [hne]
  refine ⟨ends ++ bs, hends.append hbs, ?_⟩
  have htrim : trim (line ++ (bs ++ closing)) = trim line ++ (ends ++ bs) ++ closing := by
    rw [trim, trimStart_append hline, trimEnd_eq_self_iff.mpr]
    · conv_lhs => rw [hstart]
      simp [trim]
    · simp
      decide
  obtain ⟨b, gap, hgap⟩ := List.exists_cons_of_ne_nil hnil
  have hb : isBlank b = true := (hends.append hbs) b (by simp [hgap])
  rw [htrim, hgap, List.append_assoc, List.cons_append, withoutOpening_append_blank hb,
    List.append_assoc, List.cons_append]

/-- A closing after a blank takes nothing from a line that has no closing of its own. -/
theorem undecorated_closed (h : ¬ closing <:+ withoutOpening (trim line)) (hbs : Blank bs)
    (hne : bs ≠ []) : undecorated (line ++ (bs ++ closing)) = undecorated line := by
  by_cases hline : Blank line
  · rw [← List.append_assoc, undecorated_blank_append (hline.append hbs)]
    have hnone := undecorated_append_blank hline []
    rw [List.nil_append] at hnone
    rw [hnone]
    decide
  obtain ⟨gap, hgap, hopened⟩ := withoutOpening_trim_closed hline hbs hne
  rw [undecorated, hopened, withoutClosing_append, undecorated, withoutClosing_of_unclosed h]
  -- both have lost the opening; what differs is the gap at the end, which the trims take
  generalize withoutOpening (trim line) = inner
  by_cases hinner : Blank inner
  · rw [trimStart_eq_nil_iff.mpr (hinner.append hgap), trimStart_eq_nil_iff.mpr hinner]
  · have hleft : trimStart inner ≠ [] := mt trimStart_eq_nil_iff.mp hinner
    rw [trimStart_append hinner, withoutStar_append hleft, trim_append_of_blank hgap]

/-! ## Plain texts -/

/-- What is left of a decoration when the line has lost its opening. -/
def Decoration.left : Decoration → List Char
  | none => []
  | star => ['*', ' ']
  | slashes => [' ']
  | bang => [' ']

/-- Behind a decoration a text keeps its end, and the decoration is no blank. -/
theorem Plain.withoutOpening_marks (h : Plain text) (hne : text ≠ []) (decoration : Decoration) :
    withoutOpening (trim (decoration.marks ++ text)) = decoration.left ++ text := by
  obtain ⟨hhead, hlast⟩ := trim_eq_self_iff.mp h.trimmed
  have htrim : trim (decoration.marks ++ text) = decoration.marks ++ text := by
    rw [trim_eq_self_iff, List.getLast?_append_of_ne_nil _ hne]
    refine ⟨?_, hlast⟩
    cases decoration with
    | none => exact hhead
    | star | slashes | bang => simp [Decoration.marks]; decide
  rw [htrim]
  cases decoration with
  | none => exact withoutOpening_of_unopened h.unopened
  | star | slashes | bang => rfl

theorem Plain.unclosed_left (h : Plain text) (decoration : Decoration) :
    ¬ closing <:+ decoration.left ++ text := by
  have hspace : isBlank ' ' = true := by decide
  cases decoration with
  | none => exact h.unclosed
  | star => exact mt (closing_suffix_of_blank hspace ['*']) h.unclosed
  | slashes | bang => exact mt (closing_suffix_of_blank hspace []) h.unclosed

theorem Plain.trim_left (h : Plain text) (decoration : Decoration) :
    trim (withoutStar (trimStart (decoration.left ++ text))) = text := by
  have hstart : trimStart text = text := trimStart_eq_self_of_trim h.trimmed
  have hstar : withoutStar text = text := by
    have hmark := h.unopened ['*'] (by simp [openings])
    unfold withoutStar
    split
    · exact absurd (by simp) hmark
    · rfl
  have hspace : Blank [' '] := blank_singleton (by decide)
  cases decoration with
  | none =>
    change trim (withoutStar (trimStart text)) = text
    rw [hstart, hstar, h.trimmed]
  | star =>
    change trim (' ' :: text) = text
    exact (trim_blank_append hspace text).trans h.trimmed
  | slashes | bang =>
    change trim (withoutStar (trimStart ([' '] ++ text))) = text
    rw [trimStart_append_of_blank hspace, hstart, hstar, h.trimmed]

/-- A line of a plain text has no closing, and the text is what it says. -/
theorem Plain.undecorated_marks (h : Plain text) (decoration : Decoration) :
    ¬ closing <:+ withoutOpening (trim (decoration.marks ++ text)) ∧
      undecorated (decoration.marks ++ text) = text := by
  by_cases hnil : text = []
  · subst hnil
    cases decoration <;> decide
  have hopened := h.withoutOpening_marks hnil decoration
  have hunclosed := h.unclosed_left decoration
  refine ⟨hopened ▸ hunclosed, ?_⟩
  rw [undecorated, hopened, withoutClosing_of_unclosed hunclosed, h.trim_left]

theorem Layout.blank_indent (layout : Layout) : Blank layout.indent := by
  intro c hc
  rcases layout.indented c hc with rfl | rfl <;> decide

/-- **A line says its text**, however it is laid out and whatever blanks follow. -/
theorem Layout.undecorated_line (layout : Layout) (h : Plain text) (hbs : Blank bs) :
    undecorated (layout.line (text ++ bs)) = text := by
  rw [Layout.line, undecorated_blank_append layout.blank_indent, ← List.append_assoc,
    undecorated_append_blank hbs]
  exact (h.undecorated_marks layout.decoration).2

/-- The closing of the comment may follow on the line, after a blank. -/
theorem Layout.undecorated_line_closed (layout : Layout) (h : Plain text) (hbs : Blank bs)
    {gap : List Char} (hgap : Blank gap) (hne : gap ≠ []) :
    undecorated (layout.line (text ++ bs) ++ (gap ++ closing)) = text := by
  have hends : layout.line (text ++ bs) ++ (gap ++ closing) =
      layout.indent ++ (layout.decoration.marks ++ text ++ (bs ++ gap ++ closing)) := by
    simp [Layout.line]
  obtain ⟨hunclosed, htext⟩ := h.undecorated_marks layout.decoration
  rw [hends, undecorated_blank_append layout.blank_indent,
    undecorated_closed hunclosed (hbs.append hgap) (by simp [hne]), htext]

/-- The closing on a line of its own says nothing. -/
theorem Layout.undecorated_closing (layout : Layout) :
    undecorated (layout.line closing) = [] := by
  rw [Layout.line, undecorated_blank_append layout.blank_indent]
  cases layout.decoration <;> decide

/-! ## Lines that open no tag -/

/-- A text that opens a tag. -/
def Opens (text : List Char) : Prop :=
  ∃ c rest, text = marker :: c :: rest ∧ isAlphabetic c = true

theorem opened?_eq_none_iff : opened? text = none ↔ ¬ Opens text := by
  match text with
  | [] => simp [opened?, Opens]
  | [_] => simp [opened?, Opens]
  | m :: c :: rest =>
    simp only [opened?, Opens]
    split
    · next h =>
      obtain ⟨rfl, hc⟩ := h
      cases cut isBlank (c :: rest) <;> simp [hc]
    · next h =>
      simp only [true_iff, not_exists, not_and]
      intro c' rest' heq hc'
      cases heq
      exact h ⟨rfl, hc'⟩

theorem opens_trimEnd_iff : Opens (trimEnd text) ↔ Opens text := by
  constructor
  · rintro ⟨c, rest, htext, hc⟩
    obtain ⟨bs, -, hbs⟩ := exists_trimEnd_append_blank text
    exact ⟨c, rest ++ bs, by rw [hbs, htext]; rfl, hc⟩
  · rintro ⟨c, rest, rfl, hc⟩
    refine ⟨c, trimEnd rest, ?_, hc⟩
    rw [trimEnd_cons (by decide), trimEnd_cons (isBlank_of_isAlphabetic hc)]

/-- One text goes on after the other, with characters that open no tag. -/
def Prolonged (text longer : List Char) : Prop :=
  ∃ more, (∀ c ∈ more, c ≠ marker ∧ isAlphabetic c = false) ∧ longer = text ++ more

variable {longer : List Char}

theorem Prolonged.trimStart (h : Prolonged text longer) :
    Prolonged (trimStart text) (trimStart longer) := by
  obtain ⟨more, hmore, rfl⟩ := h
  by_cases hblank : Blank text
  · refine ⟨Text.trimStart more, fun c hc => hmore c ?_, ?_⟩
    · exact (List.dropWhile_sublist isBlank).subset hc
    · rw [trimStart_append_of_blank hblank, trimStart_eq_nil_iff.mpr hblank, List.nil_append]
  · exact ⟨more, hmore, trimStart_append hblank more⟩

theorem Prolonged.withoutStar (h : Prolonged text longer) :
    Prolonged (withoutStar text) (withoutStar longer) := by
  obtain ⟨more, hmore, rfl⟩ := h
  by_cases hnil : text = []
  · subst hnil
    refine ⟨Tag.withoutStar more, fun c hc => hmore c ?_, rfl⟩
    unfold Tag.withoutStar at hc
    split at hc
    · exact List.mem_cons_of_mem _ hc
    · exact hc
  · exact ⟨more, hmore, withoutStar_append hnil more⟩

theorem Prolonged.opens (h : Prolonged text longer) (hopens : Opens longer) : Opens text := by
  obtain ⟨more, hmore, rfl⟩ := h
  obtain ⟨c, rest, htext, hc⟩ := hopens
  match text with
  | [] =>
    have hmem : marker ∈ more := by
      rw [List.nil_append] at htext
      simp [htext]
    exact absurd rfl (hmore marker hmem).1
  | [_] =>
    obtain ⟨-, rfl⟩ := List.cons.inj htext
    have hnot := (hmore c List.mem_cons_self).2
    rw [hc] at hnot
    cases hnot
  | _ :: _ :: tail =>
    obtain ⟨rfl, htail⟩ := List.cons.inj htext
    obtain ⟨rfl, -⟩ := List.cons.inj htail
    exact ⟨_, tail, rfl, hc⟩

/-- A closing after a blank makes no line open a tag. -/
theorem opened?_undecorated_closed (h : opened? (undecorated line) = none) (hbs : Blank bs)
    (hne : bs ≠ []) : opened? (undecorated (line ++ (bs ++ closing))) = none := by
  by_cases hline : Blank line
  · rw [← List.append_assoc, undecorated_blank_append (hline.append hbs)]
    decide
  rw [opened?_eq_none_iff] at h ⊢
  refine mt (fun hopens => ?_) h
  obtain ⟨gap, hgap, hopened⟩ := withoutOpening_trim_closed hline hbs hne
  -- whether a line opens a tag is seen before its end is trimmed
  rw [undecorated, hopened, withoutClosing_append, trim, opens_trimEnd_iff] at hopens
  rw [undecorated, trim, opens_trimEnd_iff]
  -- the closing stands for itself in front of the gap if the line had one already
  have hlonger : Prolonged (withoutClosing (withoutOpening (trim line)))
      (withoutOpening (trim line) ++ gap) := by
    have hgapQuiet : ∀ c ∈ gap, c ≠ marker ∧ isAlphabetic c = false := by
      intro c hc
      have hblank := hgap c hc
      refine ⟨by rintro rfl; exact absurd hblank (by decide), ?_⟩
      by_contra halpha
      rw [isBlank_of_isAlphabetic (by simpa using halpha)] at hblank
      cases hblank
    cases hbefore : before? closing (withoutOpening (trim line)) with
    | none =>
      rw [withoutClosing_of_unclosed (before?_eq_none_iff.mp hbefore)]
      exact ⟨gap, hgapQuiet, rfl⟩
    | some rest =>
      rw [eq_append_of_before? hbefore, withoutClosing_append]
      refine ⟨closing ++ gap, fun c hc => ?_, List.append_assoc ..⟩
      rcases List.mem_append.mp hc with hc | hc
      · rcases List.mem_cons.mp hc with rfl | hc
        · decide
        · rw [List.mem_singleton.mp hc]
          decide
      · exact hgapQuiet c hc
  exact hlonger.trimStart.withoutStar.trimStart.opens hopens

end RouteMap.Tag
