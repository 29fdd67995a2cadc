import RouteMap.Proofs.Tag.Listing
import RouteMap.Proofs.Tag.Rendering

/-!
# Scanning any comment

What a comment says is settled line by line, and a line that opens a tag ends what stands above
it. So a comment may be cut in front of such a line (`ofComment_append`), and it does not matter
how its lines end (`ofComment_withReturns`). Whatever the comment is, its tags have names without
blanks that begin with a letter, and texts of trimmed lines of which only the first may look like
one that opens a tag (`normal_of_mem_ofComment`).
-/

namespace RouteMap.Tag

open Text

variable {line : List Char} {texts more : List (List Char)}

/-! ## Lines of a comment -/

theorem trim_undecorated (line : List Char) : trim (undecorated line) = undecorated line :=
  trim_trim _

theorem withoutStar_isSuffix (line : List Char) : withoutStar line <:+ line := by
  unfold withoutStar
  split
  · exact List.suffix_cons _ _
  · exact List.suffix_refl _

theorem withoutClosing_isPrefix (line : List Char) : withoutClosing line <+: line := by
  unfold withoutClosing
  cases h : before? ['*', '/'] line with
  | none => exact List.prefix_refl _
  | some rest =>
    rw [Option.getD_some, eq_append_of_before? h]
    exact List.prefix_append _ _

theorem withoutOpening_isSuffix (line : List Char) : withoutOpening line <:+ line := by
  unfold withoutOpening
  split
  · exact List.suffix_append ['/', '*', '*'] _
  · exact List.suffix_append ['/', '/', '/'] _
  · exact List.suffix_append ['/', '/', '!'] _
  · exact List.suffix_refl _

theorem mem_of_mem_undecorated {c : Char} (h : c ∈ undecorated line) : c ∈ line :=
  mem_of_mem_trim <| (withoutOpening_isSuffix _).subset <| (withoutClosing_isPrefix _).subset <|
    (trimStart_isSuffix _).subset <| (withoutStar_isSuffix _).subset <| mem_of_mem_trim h

/-- What the pieces of a comment between its line feeds say. -/
def said (comment : String) : List (List Char) := (pieces '\n' comment.toList).map undecorated

/-- What stands behind the last line feed is a line only if it is not empty. -/
theorem said_cases (comment : String) :
    said comment = (Text.lines comment.toList).map undecorated ∨
      said comment = (Text.lines comment.toList).map undecorated ++ [[]] := by
  have hreturn : ∀ ps : List (List Char),
      (ps.map withoutReturn).map undecorated = ps.map undecorated := by
    intro ps
    rw [List.map_map]
    exact List.map_congr_left fun p _ => undecorated_withoutReturn p
  unfold said Text.lines
  rcases List.eq_nil_or_concat (pieces '\n' comment.toList) with hnil | ⟨init, last, hpieces⟩
  · exact absurd hnil (pieces_ne_nil _ _)
  rw [List.concat_eq_append] at hpieces
  simp only [hpieces, List.dropLast_concat, List.getLast?_concat, List.map_append, hreturn]
  by_cases hlast : last = []
  · subst hlast
    exact .inr (by simp; decide)
  · exact .inl (by simp [hlast])

theorem ofComment_eq_scan_said (comment : String) :
    ofComment comment = (scan (said comment)).2 := by
  rcases said_cases comment with h | h
  · rw [h, ofComment]
  · rw [h, (scan_append_nil _).1, ofComment]

/-! ## Cutting a comment -/

/-- The first line of a comment opens a tag, once its decoration is gone. -/
def BeginsTag (comment : String) : Prop :=
  ∃ line ∈ (Text.lines comment.toList).head?, Opens (undecorated line)

theorem exists_opened?_of_opens (h : Opens line) : ∃ opening, opened? line = some opening := by
  rw [← Option.isSome_iff_exists, Option.isSome_iff_ne_none]
  exact fun hnone => opened?_eq_none_iff.mp hnone h

/-- Above lines that leave nothing to continue, lines are scanned as if they stood alone. -/
theorem scan_append (h : (scan more).1 = []) (texts : List (List Char)) :
    scan (texts ++ more) = ((scan texts).1, (scan texts).2 ++ (scan more).2) := by
  induction texts with
  | nil => exact Prod.ext h rfl
  | cons text texts ih =>
    simp only [List.cons_append, scan, ih]
    cases opened? text <;> rfl

theorem BeginsTag.scan_said {comment : String} (h : BeginsTag comment) :
    (scan (said comment)).1 = [] := by
  obtain ⟨line, hline, hopens⟩ := h
  obtain ⟨rest, hlines⟩ := List.head?_eq_some_iff.mp hline
  obtain ⟨opening, hopening⟩ := exists_opened?_of_opens hopens
  obtain ⟨more, hsaid⟩ : ∃ more, said comment = undecorated line :: more := by
    rcases said_cases comment with h | h
    · exact ⟨_, by rw [h, hlines, List.map_cons]⟩
    · exact ⟨_, by rw [h, hlines, List.map_cons, List.cons_append]⟩
  rw [hsaid, scan, hopening]

/-- **A comment may be cut in front of a line that opens a tag.** -/
theorem ofComment_append (above : String) {below : String} (h : BeginsTag below) :
    ofComment (above ++ "\n" ++ below) = ofComment above ++ ofComment below := by
  have hsaid : said (above ++ "\n" ++ below) = said above ++ said below := by
    have hchars : (above ++ "\n" ++ below).toList = above.toList ++ '\n' :: below.toList := by simp
    rw [said, hchars, pieces_append, List.map_append]
    rfl
  simp only [ofComment_eq_scan_said, hsaid, scan_append h.scan_said]

/-! ## Line ends -/

/-- The text with a carriage return in front of every line feed. -/
def withReturns (comment : String) : String :=
  String.ofList (comment.toList.flatMap fun c => if c = '\n' then ['\r', '\n'] else [c])

/-- A carriage return in front of every line feed is one more at the end of every piece but the
last. -/
theorem forall₂_pieces_withReturns (cs : List Char) :
    List.Forall₂ (fun p q => q = p ∨ q = p ++ ['\r']) (pieces '\n' cs)
      (pieces '\n' (cs.flatMap fun c => if c = '\n' then ['\r', '\n'] else [c])) := by
  induction cs with
  | nil => exact .cons (.inl rfl) .nil
  | cons c cs ih =>
    by_cases hc : c = '\n'
    · subst hc
      have hreturn : ∀ rest, pieces '\n' ('\r' :: '\n' :: rest) = ['\r'] :: pieces '\n' rest :=
        fun rest => @pieces_append_sep ['\r'] '\n' (by decide) rest
      simp only [List.flatMap_cons, ↓reduceIte, List.cons_append, List.nil_append, hreturn]
      exact .cons (.inr rfl) ih
    · simp only [List.flatMap_cons, hc, ↓reduceIte, List.cons_append, List.nil_append]
      rw [pieces_cons_of_ne hc, pieces_cons_of_ne hc]
      generalize pieces '\n' cs = ps at ih ⊢
      generalize pieces '\n' _ = qs at ih ⊢
      cases ih with
      | nil => exact .nil
      | cons hp hps =>
        refine .cons ?_ hps
        rcases hp with rfl | rfl
        · exact .inl rfl
        · exact .inr rfl

/-- **It does not matter how the lines of a comment end.** -/
theorem ofComment_withReturns (comment : String) :
    ofComment (withReturns comment) = ofComment comment := by
  have hreturn : Blank ['\r'] := blank_singleton (by decide)
  have hsame : ∀ {ps qs : List (List Char)},
      List.Forall₂ (fun p q => q = p ∨ q = p ++ ['\r']) ps qs →
        qs.map undecorated = ps.map undecorated := by
    intro ps qs h
    induction h with
    | nil => rfl
    | cons hp _ ih =>
      rw [List.map_cons, List.map_cons, ih]
      rcases hp with rfl | rfl
      · rfl
      · rw [undecorated_append_blank hreturn]
  have hsaid : said (withReturns comment) = said comment := by
    rw [said, said, withReturns, String.toList_ofList]
    exact hsame (forall₂_pieces_withReturns _)
  rw [ofComment_eq_scan_said, hsaid, ofComment_eq_scan_said]

/-! ## Where a tag comes from -/

theorem mem_of_mem_continued (h : line ∈ (scan texts).1) : line ∈ texts ∧ ¬ Opens line := by
  induction texts with
  | nil => cases h
  | cons text texts ih =>
    simp only [scan] at h
    cases hopened : opened? text with
    | some opening =>
      rw [hopened] at h
      cases h
    | none =>
      rw [hopened] at h
      rcases List.mem_cons.mp h with rfl | h
      · exact ⟨List.mem_cons_self, opened?_eq_none_iff.mp hopened⟩
      · exact ⟨List.mem_cons_of_mem _ (ih h).1, (ih h).2⟩

/-- A tag is made of the line that opens it and of lines that open none. -/
theorem exists_of_mem_scan {t : Tag} (h : t ∈ (scan texts).2) :
    ∃ line ∈ texts, ∃ name first continued, opened? line = some (name, first) ∧
      (∀ text ∈ continued, text ∈ texts ∧ ¬ Opens text) ∧
      t = ofLines name (first :: continued) := by
  induction texts with
  | nil => cases h
  | cons text texts ih =>
    have hlater : t ∈ (scan texts).2 → ∃ line ∈ text :: texts, ∃ name first continued,
        opened? line = some (name, first) ∧
        (∀ text' ∈ continued, text' ∈ text :: texts ∧ ¬ Opens text') ∧
        t = ofLines name (first :: continued) := by
      intro h
      obtain ⟨line, hline, name, first, continued, hopened, hcontinued, ht⟩ := ih h
      exact ⟨line, List.mem_cons_of_mem _ hline, name, first, continued, hopened,
        fun text htext => (hcontinued text htext).imp_left (List.mem_cons_of_mem _), ht⟩
    simp only [scan] at h
    cases hopened : opened? text with
    | none =>
      rw [hopened] at h
      exact hlater h
    | some opening =>
      obtain ⟨name, first⟩ := opening
      rw [hopened] at h
      rcases List.mem_cons.mp h with rfl | h
      · exact ⟨text, List.mem_cons_self, name, first, _, hopened,
          fun text' htext => (mem_of_mem_continued htext).imp_left (List.mem_cons_of_mem _), rfl⟩
      · exact hlater h

/-- A line that opens a tag has its name up to the first blank, and a trimmed text behind it. -/
theorem of_opened?_eq_some {name first : List Char} (h : opened? line = some (name, first)) :
    (∃ c cs, name = c :: cs ∧ isAlphabetic c = true) ∧ (∀ c ∈ name, isBlank c = false) ∧
      trim first = first ∧ ∀ c ∈ first, c ∈ line := by
  match line with
  | [] | [_] => cases h
  | m :: c :: rest =>
    simp only [opened?] at h
    split at h
    · next hopens =>
      have hblank := isBlank_of_isAlphabetic hopens.2
      cases hcut : cut isBlank (c :: rest) with
      | none =>
        rw [hcut] at h
        obtain ⟨rfl, rfl⟩ := Prod.mk.inj (Option.some.inj h)
        exact ⟨⟨c, rest, rfl, hopens.2⟩, forall_of_cut_eq_none hcut, rfl, by simp⟩
      | some parts =>
        obtain ⟨before, behind⟩ := parts
        rw [hcut] at h
        obtain ⟨rfl, rfl⟩ := Prod.mk.inj (Option.some.inj h)
        obtain ⟨sep, hsep, hsplit, hbefore⟩ := exists_of_cut_eq_some hcut
        refine ⟨?_, hbefore, trim_trim behind, fun a ha => ?_⟩
        · cases before with
          | nil =>
            -- the letter is no blank, so the name is not cut in front of it
            obtain ⟨rfl, -⟩ := List.cons.inj hsplit
            rw [hblank] at hsep
            cases hsep
          | cons b before =>
            obtain ⟨rfl, -⟩ := List.cons.inj hsplit
            exact ⟨c, before, rfl, hopens.2⟩
        · rw [hsplit]
          have hbehind := mem_of_mem_trim ha
          simp [hbehind]
    · cases h

/-! ## Joined lines -/

/-- Trimmed lines lose the empty ones at their start when they are trimmed together. -/
theorem exists_trimStart_intercalate (h : ∀ text ∈ texts, trim text = text) :
    ∃ rest, rest <:+ texts ∧
      trimStart (['\n'].intercalate texts) = ['\n'].intercalate rest := by
  have hnewline : Blank ['\n'] := blank_singleton (by decide)
  induction texts with
  | nil => exact ⟨[], List.suffix_refl _, rfl⟩
  | cons text texts ih =>
    obtain ⟨htext, htexts⟩ := List.forall_mem_cons.mp h
    by_cases hnil : text = []
    · obtain ⟨rest, hrest, htrim⟩ := ih htexts
      refine ⟨rest, hrest.trans (List.suffix_cons _ _), ?_⟩
      rw [← htrim, hnil]
      rcases texts with _ | ⟨next, texts⟩
      · rfl
      · rw [List.intercalate_cons_cons, List.nil_append, trimStart_append_of_blank hnewline]
    · refine ⟨text :: texts, List.suffix_refl _, trimStart_eq_self_iff.mpr ?_⟩
      rw [head?_intercalate hnil]
      exact (trim_eq_self_iff.mp htext).1

/-- They lose the empty ones at their end too. -/
theorem exists_trimEnd_intercalate (h : ∀ text ∈ texts, trim text = text) :
    ∃ init, init <+: texts ∧ trimEnd (['\n'].intercalate texts) = ['\n'].intercalate init := by
  have hnewline : Blank ['\n'] := blank_singleton (by decide)
  induction texts using List.reverseRecOn with
  | nil => exact ⟨[], List.prefix_refl _, rfl⟩
  | append_singleton texts last ih =>
    obtain ⟨htexts, hlast⟩ := List.forall_mem_append.mp h
    by_cases hnil : last = []
    · obtain ⟨init, hinit, htrim⟩ := ih htexts
      refine ⟨init, hinit.trans (List.prefix_append _ _), ?_⟩
      rw [← htrim, hnil]
      by_cases hempty : texts = []
      · rw [hempty]
        rfl
      · rw [intercalate_concat hempty, List.append_nil, trimEnd_append_of_blank hnewline]
    · refine ⟨texts ++ [last], List.prefix_refl _, trimEnd_eq_self_iff.mpr ?_⟩
      rw [getLast?_intercalate (by simp) hnil]
      exact (trim_eq_self_iff.mp (hlast last (List.mem_singleton_self last))).2

/-- Trimmed lines that are trimmed together are some of them, one behind the other. -/
theorem exists_trim_intercalate (h : ∀ text ∈ texts, trim text = text) :
    ∃ kept, kept <:+: texts ∧ trim (['\n'].intercalate texts) = ['\n'].intercalate kept := by
  obtain ⟨rest, hrest, hstart⟩ := exists_trimStart_intercalate h
  obtain ⟨kept, hkept, hend⟩ := exists_trimEnd_intercalate fun text ht => h text (hrest.subset ht)
  exact ⟨kept, hkept.isInfix.trans hrest.isInfix, by rw [trim, hstart, hend]⟩

/-- All but the first of the lines that are kept come behind the first line. -/
theorem tail_subset_of_isInfix {kept : List (List Char)} (h : kept <:+: line :: texts) :
    kept.tail ⊆ texts := by
  obtain ⟨before, behind, hsplit⟩ := h
  cases before with
  | nil =>
    cases kept with
    | nil => exact List.nil_subset _
    | cons text kept =>
      obtain ⟨-, rfl⟩ := List.cons.inj hsplit
      exact List.subset_append_left _ _
  | cons text before =>
    obtain ⟨-, rfl⟩ := List.cons.inj hsplit
    intro a ha
    simp [List.mem_of_mem_tail ha]

/-! ## Normal forms -/

/-- A tag as a comment can say it. Its lines are taken as they stand in the text. -/
structure Normal (t : Tag) : Prop where
  name_alphabetic : ∃ c ∈ t.name.toList.head?, isAlphabetic c = true
  name_unblank : ∀ c ∈ t.name.toList, isBlank c = false
  name_canonical : canonicalName t.name = t.name
  text_trimmed : trim t.text.toList = t.text.toList
  lines_trimmed : ∀ line ∈ pieces '\n' t.text.toList, trim line = line
  lines_idle : ∀ line ∈ (pieces '\n' t.text.toList).tail, ¬ Opens line

/-- A tag of trimmed lines, of which only the first may look like one that opens a tag. -/
theorem normal_ofLines {name first : List Char} {continued : List (List Char)}
    (hname : ∃ c cs, name = c :: cs ∧ isAlphabetic c = true)
    (hunblank : ∀ c ∈ name, isBlank c = false)
    (htrimmed : ∀ text ∈ first :: continued, trim text = text)
    (hunbroken : ∀ text ∈ first :: continued, '\n' ∉ text)
    (hidle : ∀ text ∈ continued, ¬ Opens text) : Normal (ofLines name (first :: continued)) := by
  obtain ⟨c, cs, rfl, hc⟩ := hname
  obtain ⟨kept, hkept, htext⟩ := exists_trim_intercalate htrimmed
  have hlines : pieces '\n' (['\n'].intercalate kept) = if kept = [] then [[]] else kept := by
    split
    · next hnil => rw [hnil]; rfl
    · next hne =>
      exact pieces_intercalate_of_not_mem hne fun text ht => hunbroken text (hkept.subset ht)
  have htrim : trim (c :: cs) = c :: cs := trim_eq_self_of_forall hunblank
  refine ⟨⟨c, by simp [ofLines], hc⟩, by simpa [ofLines] using hunblank, ?_, ?_, ?_, ?_⟩
  · refine canonicalName_eq_self (String.toList_ofList) ?_ ?_
    · rw [ofLines, String.toList_ofList, htrim]
    · rintro rfl
      exact absurd hc (by decide)
  · rw [ofLines, String.toList_ofList, trim_trim]
  · rw [ofLines, String.toList_ofList, htext, hlines]
    split
    · simp
    · exact fun text ht => htrimmed text (hkept.subset ht)
  · rw [ofLines, String.toList_ofList, htext, hlines]
    split
    · simp
    · exact fun text ht => hidle text (tail_subset_of_isInfix hkept ht)

/-- **The tags of a comment are in normal form**, whatever the comment is. -/
theorem normal_of_mem_ofComment {comment : String} {t : Tag} (h : t ∈ ofComment comment) :
    Normal t := by
  have hsaid : ∀ text ∈ said comment, trim text = text ∧ '\n' ∉ text := by
    intro text htext
    obtain ⟨piece, hpiece, rfl⟩ := List.mem_map.mp htext
    exact ⟨trim_undecorated piece, fun hmem =>
      not_mem_of_mem_pieces hpiece (mem_of_mem_undecorated hmem)⟩
  rw [ofComment_eq_scan_said] at h
  obtain ⟨line, hline, name, first, continued, hopened, hcontinued, rfl⟩ := exists_of_mem_scan h
  obtain ⟨hname, hunblank, htrim, hfirst⟩ := of_opened?_eq_some hopened
  refine normal_ofLines hname hunblank (List.forall_mem_cons.mpr ⟨htrim, fun text htext => ?_⟩)
    (List.forall_mem_cons.mpr ⟨fun hmem => ?_, fun text htext => ?_⟩)
    fun text htext => (hcontinued text htext).2
  · exact (hsaid text (hcontinued text htext).1).1
  · exact (hsaid line hline).2 (hfirst _ hmem)
  · exact (hsaid text (hcontinued text htext).1).2

/-- **Scanning is by lines and gives normal forms.** A comment may be cut in front of a line that
opens a tag, a carriage return in front of every line feed changes nothing, and every tag that is
found has a name that an index keeps as it is and a text that is trimmed line by line. -/
theorem scanned_line_by_line :
    (∀ above below, BeginsTag below →
      ofComment (above ++ "\n" ++ below) = ofComment above ++ ofComment below) ∧
    (∀ comment, ofComment (withReturns comment) = ofComment comment) ∧
    ∀ comment, ∀ t ∈ ofComment comment, Normal t :=
  ⟨fun above _ h => ofComment_append above h, ofComment_withReturns,
    fun _ _ h => normal_of_mem_ofComment h⟩

/-- The upper part ends in an empty line with a carriage return, the lower one begins with a line in
decoration, and a line of it that only looks like a tag goes on with the text of the one above. -/
theorem scanned_line_by_line_at_seam :
    let above := "/** idle\n@scope read\u00A0\n * write\n\r"
    let below := "\t* @doc\u3000@a\r\n\n @1 */\r"
    BeginsTag below ∧
      ofComment (withReturns (above ++ "\n" ++ below)) =
        [⟨"scope", "read\nwrite"⟩, ⟨"doc", "@a\n\n@1"⟩] ∧
      ∀ t ∈ ofComment (above ++ "\n" ++ below), Normal t := by
  intro above below
  obtain ⟨hcut, hreturns, hnormal⟩ := scanned_line_by_line
  have hbegins : BeginsTag below :=
    ⟨"\t* @doc\u3000@a".toList, by decide +kernel, 'd', "oc\u3000@a".toList, by decide +kernel,
      by decide⟩
  refine ⟨hbegins, ?_, hnormal _⟩
  rw [hreturns, hcut above below hbegins]
  decide +kernel

end RouteMap.Tag
