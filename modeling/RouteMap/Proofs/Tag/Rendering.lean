import Mathlib.Data.List.ModifyLast
import RouteMap.Proofs.Tag.Decoration

/-!
# Tags in a rendered comment

A `Rendering` is a comment that was written for a list of tags: each tag has a line with
its name and the first line of its text, and a line for every other line of the text. It
says for each of them how it is laid out and how it ends, what stands above the first
tag, and how the comment is closed. Reading the comment gives the tags back
(`Rendering.ofComment_comment`): the choices of layout leave no trace.
-/

namespace RouteMap.Tag

open Text

/-! ## Lines -/

/-- A line of a comment, and whether a carriage return stands before its line feed. -/
structure Line where
  body : List Char
  returns : Bool
  unbroken : '\n' ∉ body

/-- The end of a line. -/
def Line.ending (line : Line) : List Char := if line.returns then ['\r', '\n'] else ['\n']

/-- What a line says. -/
def Line.read (line : Line) : List Char := undecorated line.body

/-- Lines one after the other. The last one may do without its end. -/
def written (ended : Bool) : List Line → List Char
  | [] => []
  | [line] => line.body ++ if ended then line.ending else []
  | line :: lines => line.body ++ line.ending ++ written ended lines

theorem Layout.unbroken_line (layout : Layout) {text : List Char} (h : '\n' ∉ text) :
    '\n' ∉ layout.line text := by
  have hindent : '\n' ∉ layout.indent := by
    intro hmem
    rcases layout.indented _ hmem with heq | heq <;> cases heq
  have hmarks : '\n' ∉ layout.decoration.marks := by
    cases layout.decoration <;> decide
  simp [Layout.line, hindent, hmarks, h]

/-- The line of a text in a layout. -/
def Layout.lineOf (layout : Layout) (text : List Char) (h : '\n' ∉ text) : Line :=
  ⟨layout.line text, layout.returns, layout.unbroken_line h⟩

/-- A line with the closing of the comment after a gap. -/
def Line.close (gap : List Char) (h : '\n' ∉ gap) (line : Line) : Line where
  body := line.body ++ (gap ++ closing)
  returns := line.returns
  unbroken := by simp [line.unbroken, h]

/-! ## Tags -/

/-- A line of a tag's text after the first. -/
structure Continuation where
  text : List Char
  layout : Layout
  plain : Plain text
  unbroken : '\n' ∉ text
  continues : ¬ Opens text

/-- A tag as it is written: its name, a gap of blanks, the first line of its text, and the
other lines. Where there are other lines, neither the first nor the last one is empty. -/
structure Rendered where
  name : List Char
  gap : List Char
  first : List Char
  layout : Layout
  rest : List Continuation
  name_alphabetic : ∃ c cs, name = c :: cs ∧ isAlphabetic c = true
  name_unblank : ∀ c ∈ name, isBlank c = false
  name_unclosed : ¬ closing <:+ name
  gap_blank : Blank gap
  gap_ne_nil : gap ≠ []
  gap_unbroken : '\n' ∉ gap
  first_trimmed : trim first = first
  first_unclosed : ¬ closing <:+ first
  first_unbroken : '\n' ∉ first
  full : rest ≠ [] → first ≠ [] ∧ ∀ last ∈ rest.getLast?, last.text ≠ []

namespace Rendered

variable (tag : Rendered)

/-- The tag that is written. -/
def toTag : Tag where
  name := String.ofList tag.name
  text := String.ofList (List.intercalate ['\n'] (tag.first :: tag.rest.map (·.text)))

/-- The line that opens the tag, undecorated. -/
def head : List Char := marker :: tag.name ++ tag.gap ++ tag.first

theorem unbroken_head : '\n' ∉ tag.head := by
  have hname : '\n' ∉ tag.name := fun hmem => by
    have := tag.name_unblank _ hmem
    exact absurd this (by decide)
  simp [head, hname, tag.gap_unbroken, tag.first_unbroken, marker]

/-- The lines of the tag. -/
def lines : List Line :=
  tag.layout.lineOf tag.head tag.unbroken_head ::
    tag.rest.map fun line => line.layout.lineOf line.text line.unbroken

end Rendered

/-! ## Comments -/

/-- How a comment is closed: not at all, on a line of its own, or after a gap at the end of
its last line. -/
inductive Closing
  | none
  | own (layout : Layout)
  | same (gap : List Char) (blank : Blank gap) (ne_nil : gap ≠ []) (unbroken : '\n' ∉ gap)

/-- The lines of a comment with its closing. -/
def Closing.close : Closing → List Line → List Line
  | none, lines => lines
  | own layout, lines => lines ++ [layout.lineOf closing (by decide)]
  | same gap _ _ unbroken, lines => lines.modifyLast (Line.close gap unbroken)

/-- A comment that is written for tags. The lines above them open no tag. -/
structure Rendering where
  preface : List Line
  tags : List Rendered
  closing : Closing
  ended : Bool
  idle : ∀ line ∈ preface, ¬ Opens line.read

namespace Rendering

/-- The lines of the comment, the closing apart. -/
def lines (rendering : Rendering) : List Line :=
  rendering.preface ++ rendering.tags.flatMap Rendered.lines

/-- The text of the comment. -/
def comment (rendering : Rendering) : String :=
  String.ofList (written rendering.ended (rendering.closing.close rendering.lines))

end Rendering

/-! ## Reading lines -/

variable {line : List Char}

theorem undecorated_withoutReturn (line : List Char) :
    undecorated (withoutReturn line) = undecorated line := by
  have hreturn : Blank ['\r'] := blank_singleton (by decide)
  rcases eq_withoutReturn_append line with h | h
  · rw [← h]
  · conv_rhs => rw [h, undecorated_append_blank hreturn]

/-- Each line with its end is read as it is. -/
theorem lines_append_ending (line : Line) (rest : List Char) :
    (Text.lines (line.body ++ line.ending ++ rest)).map undecorated =
      line.read :: (Text.lines rest).map undecorated := by
  unfold Line.ending Line.read
  split
  · have hunbroken : '\n' ∉ line.body ++ ['\r'] := by simp [line.unbroken]
    have hreturn : Blank ['\r'] := blank_singleton (by decide)
    rw [show line.body ++ ['\r', '\n'] ++ rest = line.body ++ ['\r'] ++ '\n' :: rest by simp,
      lines_append_newline hunbroken, List.map_cons, undecorated_withoutReturn,
      undecorated_append_blank hreturn]
  · rw [List.append_assoc, List.singleton_append, lines_append_newline line.unbroken,
      List.map_cons, undecorated_withoutReturn]

/-- All lines are read; only an empty one at the very end may be lost. -/
theorem lines_written (ended : Bool) (lines : List Line) :
    (Text.lines (written ended lines)).map undecorated = lines.map Line.read ∨
      (Text.lines (written ended lines)).map undecorated ++ [[]] = lines.map Line.read := by
  induction lines with
  | nil => exact .inl rfl
  | cons line lines ih =>
    rcases lines with _ | ⟨next, lines⟩
    · cases ended with
      | true =>
        left
        have h := lines_append_ending line []
        rw [List.append_nil] at h
        exact h
      | false =>
        -- a text that ends in a line feed has no line behind it
        by_cases hbody : line.body = []
        · right
          simp [written, Line.read, hbody]
          decide
        · left
          simp [written, Line.read, lines_of_not_mem line.unbroken hbody]
    · rw [written, lines_append_ending]
      · rcases ih with ih | ih
        · left
          rw [ih]
          rfl
        · right
          rw [List.cons_append, ih]
          rfl
      · simp

/-! ## Scanning -/

/-- Lines that open no tag continue what stands above them. -/
theorem scan_append_of_idle {idle : List (List Char)} (h : ∀ text ∈ idle, ¬ Opens text)
    (texts : List (List Char)) :
    scan (idle ++ texts) = (idle ++ (scan texts).1, (scan texts).2) := by
  induction idle with
  | nil => rfl
  | cons text idle ih =>
    obtain ⟨htext, hidle⟩ := List.forall_mem_cons.mp h
    simp [scan, opened?_eq_none_iff.mpr htext, ih hidle]

/-- An empty line at the end of a text does not count. -/
theorem ofLines_append_nil (name : List Char) {texts : List (List Char)} (h : texts ≠ []) :
    ofLines name (texts ++ [[]]) = ofLines name texts := by
  have hnewline : Blank ['\n'] := blank_singleton (by decide)
  rw [ofLines, intercalate_concat h, List.append_nil, trim_append_of_blank hnewline, ofLines]

/-- An empty line at the end of a comment does not count. -/
theorem scan_append_nil (texts : List (List Char)) :
    (scan (texts ++ [[]])).2 = (scan texts).2 ∧
      ((scan (texts ++ [[]])).1 = (scan texts).1 ∨
        (scan (texts ++ [[]])).1 = (scan texts).1 ++ [[]]) := by
  -- the line goes to the last tag if there is one, else it continues what is open above
  induction texts with
  | nil => exact ⟨rfl, .inr rfl⟩
  | cons text texts ih =>
    obtain ⟨htags, hcontinued⟩ := ih
    simp only [List.cons_append, scan]
    cases opened? text with
    | none =>
      refine ⟨htags, ?_⟩
      rcases hcontinued with h | h
      · exact .inl (by rw [h])
      · exact .inr (by rw [h]; rfl)
    | some opening =>
      obtain ⟨name, first⟩ := opening
      refine ⟨?_, .inl rfl⟩
      rcases hcontinued with h | h
      · simp only [h, htags]
      · simp only [h, htags, ← List.cons_append]
        rw [ofLines_append_nil name (by simp)]

/-! ## One tag -/

namespace Rendered

variable (tag : Rendered)

/-- What the line that opens the tag says. -/
def opening : List Char :=
  if tag.first = [] then marker :: tag.name else tag.head

/-- The blanks that the line ends with. -/
def trailing : List Char := if tag.first = [] then tag.gap else []

theorem head_eq : tag.head = tag.opening ++ tag.trailing := by
  unfold head opening trailing
  split
  · next hnil => simp [hnil]
  · simp [head]

theorem blank_trailing : Blank tag.trailing := by
  unfold trailing
  split
  · exact tag.gap_blank
  · exact blank_nil

theorem name_ne_nil : tag.name ≠ [] := by
  obtain ⟨c, cs, hname, -⟩ := tag.name_alphabetic
  simp [hname]

theorem opened?_opening : opened? tag.opening = some (tag.name, tag.first) := by
  obtain ⟨c, cs, hname, hc⟩ := tag.name_alphabetic
  obtain ⟨b, gap, hgap⟩ := List.exists_cons_of_ne_nil tag.gap_ne_nil
  obtain ⟨hb, hblank⟩ := List.forall_mem_cons.mp (hgap ▸ tag.gap_blank)
  have hunblank := tag.name_unblank
  unfold opening
  split
  · next hnil =>
    rw [hname] at hunblank ⊢
    simp [opened?, hc, cut_eq_none hunblank, hnil]
  · rw [head, hname, hgap]
    rw [hname] at hunblank
    have hcut := cut_append hunblank hb (gap ++ tag.first)
    simp only [List.cons_append, List.append_assoc] at hcut ⊢
    simp [opened?, hc, hcut, trim_blank_append hblank, tag.first_trimmed]

/-- The line that opens the tag is plain. -/
theorem plain_opening : Plain tag.opening := by
  have hmarker : ∀ mark ∈ openings, ∀ rest, ¬ mark <+: marker :: rest := by
    intro mark hmark rest hprefix
    simp only [openings, List.mem_cons, List.not_mem_nil, or_false] at hmark
    rcases hmark with rfl | rfl | rfl | rfl <;>
      exact absurd (List.cons_prefix_cons.mp hprefix).1 (by decide)
  have hblank : isBlank marker = false := by decide
  unfold opening
  split
  · refine ⟨trim_eq_self_iff.mpr ⟨by simp [hblank], ?_⟩,
      fun mark hmark => hmarker mark hmark _, ?_⟩
    · rw [List.getLast?_cons_of_ne_nil tag.name_ne_nil]
      exact fun c hc => tag.name_unblank c (List.mem_of_getLast? hc)
    · rw [List.suffix_cons_iff]
      rintro (heq | hsuffix)
      · cases heq
      · exact tag.name_unclosed hsuffix
  · next hne =>
    refine ⟨trim_eq_self_iff.mpr ⟨by simp [head, hblank], ?_⟩,
      fun mark hmark => hmarker mark hmark _, ?_⟩
    · rw [head, List.getLast?_append_of_ne_nil _ hne]
      exact (trim_eq_self_iff.mp tag.first_trimmed).2
    · -- a closing at the end would have to reach back over the last blank of the gap
      obtain ⟨gap, b, hgap⟩ := (List.eq_nil_or_concat tag.gap).resolve_left tag.gap_ne_nil
      rw [List.concat_eq_append] at hgap
      have hb : isBlank b = true := tag.gap_blank b (by simp [hgap])
      intro hsuffix
      refine tag.first_unclosed (closing_suffix_of_blank hb (marker :: tag.name ++ gap) ?_)
      simpa [head, hgap] using hsuffix

/-- What the lines of the tag say. -/
def texts : List (List Char) := tag.opening :: tag.rest.map (·.text)

theorem read_lines : tag.lines.map Line.read = tag.texts := by
  have hhead := tag.layout.undecorated_line tag.plain_opening tag.blank_trailing
  rw [← head_eq] at hhead
  simp only [lines, texts, List.map_cons, List.map_map]
  refine List.cons_eq_cons.mpr ⟨hhead, List.map_congr_left fun line _ => ?_⟩
  have hline := line.layout.undecorated_line line.plain blank_nil
  rwa [List.append_nil] at hline

/-- The closing may follow on every line of the tag. -/
theorem read_close {line : Line} (hline : line ∈ tag.lines) {gap : List Char}
    (hgap : Blank gap) (hne : gap ≠ []) (hunbroken : '\n' ∉ gap) :
    (line.close gap hunbroken).read = line.read := by
  rcases List.mem_cons.mp hline with rfl | hrest
  · simp only [Line.read, Line.close, Layout.lineOf]
    rw [head_eq, tag.layout.undecorated_line_closed tag.plain_opening tag.blank_trailing hgap hne,
      tag.layout.undecorated_line tag.plain_opening tag.blank_trailing]
  · obtain ⟨next, -, rfl⟩ := List.mem_map.mp hrest
    have hopen := next.layout.undecorated_line next.plain blank_nil
    have hclosed := next.layout.undecorated_line_closed next.plain blank_nil hgap hne
    rw [List.append_nil] at hopen hclosed
    exact hclosed.trans hopen.symm

/-- The text of the tag is trimmed, as its first and its last line are. -/
theorem ofLines_texts :
    ofLines tag.name (tag.first :: tag.rest.map (·.text)) = tag.toTag := by
  have htrim : trim (List.intercalate ['\n'] (tag.first :: tag.rest.map (·.text))) =
      List.intercalate ['\n'] (tag.first :: tag.rest.map (·.text)) := by
    rcases List.eq_nil_or_concat tag.rest with hnil | ⟨init, last, hrest⟩
    · simp [hnil, tag.first_trimmed]
    rw [List.concat_eq_append] at hrest
    obtain ⟨hfirst, hlast⟩ := tag.full (by simp [hrest])
    have hlastText : last.text ≠ [] := hlast last (by simp [hrest])
    have hends : last.text ∈ (tag.first :: tag.rest.map (·.text)).getLast? := by
      simp [hrest, List.getLast?_cons]
    rw [trim_eq_self_iff, head?_intercalate hfirst, getLast?_intercalate hends hlastText]
    exact ⟨(trim_eq_self_iff.mp tag.first_trimmed).1, (trim_eq_self_iff.mp last.plain.trimmed).2⟩
  rw [ofLines, htrim, toTag]

/-- The lines of a tag are scanned as that tag, whatever tags follow. -/
theorem scan_texts {more : List (List Char)} (h : (scan more).1 = []) :
    scan (tag.texts ++ more) = ([], tag.toTag :: (scan more).2) := by
  have hidle : ∀ text ∈ tag.rest.map (·.text), ¬ Opens text := by
    intro text htext
    obtain ⟨line, -, rfl⟩ := List.mem_map.mp htext
    exact line.continues
  rw [texts, List.cons_append, scan, scan_append_of_idle hidle, tag.opened?_opening]
  simp only [h, List.append_nil, tag.ofLines_texts]

end Rendered

/-! ## The whole comment -/

namespace Rendering

variable (rendering : Rendering)

theorem scan_tags (tags : List Rendered) :
    scan (tags.flatMap Rendered.texts) = ([], tags.map Rendered.toTag) := by
  induction tags with
  | nil => rfl
  | cons tag tags ih =>
    rw [List.flatMap_cons, tag.scan_texts (by rw [ih]), ih, List.map_cons]

theorem read_lines : rendering.lines.map Line.read =
    rendering.preface.map Line.read ++ rendering.tags.flatMap Rendered.texts := by
  rw [lines, List.map_append, List.map_flatMap]
  simp only [Rendered.read_lines]

theorem not_opens_of_mem_preface {text : List Char}
    (h : text ∈ rendering.preface.map Line.read) : ¬ Opens text := by
  obtain ⟨line, hline, rfl⟩ := List.mem_map.mp h
  exact rendering.idle line hline

theorem scan_lines :
    (scan (rendering.lines.map Line.read)).2 = rendering.tags.map Rendered.toTag := by
  rw [read_lines, scan_append_of_idle fun _ => rendering.not_opens_of_mem_preface, scan_tags]

/-- The last line of the comment is one of a tag, if it has tags. -/
theorem exists_tag_of_lines_eq {init : List Line} {last : Line}
    (hlines : rendering.lines = init ++ [last]) (h : rendering.tags ≠ []) :
    ∃ tag ∈ rendering.tags, last ∈ tag.lines := by
  obtain ⟨tag, htag⟩ := List.exists_mem_of_ne_nil _ h
  have hne : rendering.tags.flatMap Rendered.lines ≠ [] := by
    intro hnil
    have htagLines := List.flatMap_eq_nil_iff.mp hnil tag htag
    cases htagLines
  have hlast : (rendering.preface ++ rendering.tags.flatMap Rendered.lines).getLast? =
      some last := by
    rw [← lines, hlines, List.getLast?_concat]
  rw [List.getLast?_append_of_ne_nil _ hne] at hlast
  exact List.mem_flatMap.mp (List.mem_of_getLast? hlast)

/-- The closing at the end of the last line changes no tag: on a line of a tag it is not
read, and a line above all tags opens none with it. -/
theorem scan_modifyLast {gap : List Char} (hgap : Blank gap) (hne : gap ≠ [])
    (hunbroken : '\n' ∉ gap) :
    (scan ((rendering.lines.modifyLast (Line.close gap hunbroken)).map Line.read)).2 =
      rendering.tags.map Rendered.toTag := by
  have hscan := rendering.scan_lines
  rcases List.eq_nil_or_concat rendering.lines with hnil | ⟨init, last, hlines⟩
  · rw [hnil] at hscan ⊢
    exact hscan
  rw [List.concat_eq_append] at hlines
  rw [hlines, List.map_append, List.map_singleton] at hscan
  rw [hlines, List.modifyLast_concat, List.map_append, List.map_singleton]
  by_cases htags : rendering.tags = []
  · have hpreface : rendering.preface.map Line.read = init.map Line.read ++ [last.read] := by
      have hread := rendering.read_lines
      rw [htags, List.flatMap_nil, List.append_nil, hlines, List.map_append] at hread
      exact hread.symm
    have hidle : ∀ text ∈ init.map Line.read ++ [(last.close gap hunbroken).read],
        ¬ Opens text := by
      intro text htext
      rcases List.mem_append.mp htext with hinit | hlast
      · refine rendering.not_opens_of_mem_preface ?_
        rw [hpreface]
        exact List.mem_append_left _ hinit
      · have hopen : ¬ Opens last.read := by
          refine rendering.not_opens_of_mem_preface ?_
          rw [hpreface]
          exact List.mem_append_right _ List.mem_cons_self
        rw [List.mem_singleton.mp hlast, ← opened?_eq_none_iff]
        exact opened?_undecorated_closed (opened?_eq_none_iff.mpr hopen) hgap hne
    have hnone := scan_append_of_idle hidle []
    rw [List.append_nil] at hnone
    rw [hnone, htags]
    rfl
  · obtain ⟨tag, -, hlast⟩ := rendering.exists_tag_of_lines_eq hlines htags
    rw [tag.read_close hlast hgap hne hunbroken, hscan]

/-- **The tags of a rendered comment are the tags it was written for.** -/
theorem ofComment_comment :
    ofComment rendering.comment = rendering.tags.map Rendered.toTag := by
  have hscan : (scan ((rendering.closing.close rendering.lines).map Line.read)).2 =
      rendering.tags.map Rendered.toTag := by
    cases rendering.closing with
    | none => exact rendering.scan_lines
    | own layout =>
      have hclosing : (layout.lineOf Tag.closing (by decide)).read = [] :=
        layout.undecorated_closing
      rw [Closing.close, List.map_append, List.map_singleton, hclosing, (scan_append_nil _).1]
      exact rendering.scan_lines
    | same gap hgap hne hunbroken => exact rendering.scan_modifyLast hgap hne hunbroken
  rw [ofComment, comment, String.toList_ofList]
  rcases lines_written rendering.ended (rendering.closing.close rendering.lines) with h | h
  · rw [h, hscan]
  · rw [← (scan_append_nil _).1, h, hscan]

/-- A comment of two tags, no two of its lines laid out alike. -/
def mixed : Rendering where
  preface := [⟨['/', '*', '*'], true, by decide⟩]
  tags := [
    { name := ['s', 'c', 'o', 'p', 'e'], gap := [' '], first := ['r']
      layout := ⟨[' '], .star, false, by simp⟩, rest := []
      name_alphabetic := ⟨_, _, rfl, by decide⟩, name_unblank := by simp; decide
      name_unclosed := by decide, gap_blank := blank_singleton (by decide), gap_ne_nil := by decide
      gap_unbroken := by decide, first_trimmed := by decide, first_unclosed := by decide
      first_unbroken := by decide, full := by simp },
    { name := ['d', 'o', 'c'], gap := ['\t'], first := ['a']
      layout := ⟨[], .slashes, true, by simp⟩
      rest := [⟨['@', '1', '*'], ⟨['\t'], .none, false, by simp⟩,
        ⟨by decide, by decide, by decide⟩, by decide,
        by rintro ⟨_, _, h, hc⟩; cases h; exact absurd hc (by decide)⟩]
      name_alphabetic := ⟨_, _, rfl, by decide⟩, name_unblank := by simp; decide
      name_unclosed := by decide, gap_blank := blank_singleton (by decide), gap_ne_nil := by decide
      gap_unbroken := by decide, first_trimmed := by decide, first_unclosed := by decide
      first_unbroken := by decide, full := by simp }]
  closing := .same [' '] (blank_singleton (by decide)) (by decide) (by decide)
  ended := false
  idle := by
    rintro line hline ⟨_, _, h, -⟩
    rw [List.mem_singleton.mp hline] at h
    cases h

theorem ofComment_comment_mixed :
    mixed.comment = "/**\r\n * @scope r\n/// @doc\ta\r\n\t@1* */" ∧
      ofComment mixed.comment = [⟨"scope", "r"⟩, ⟨"doc", "a\n@1*"⟩] := by
  refine ⟨by decide +kernel, ?_⟩
  rw [mixed.ofComment_comment]
  decide +kernel

end Rendering

end RouteMap.Tag
