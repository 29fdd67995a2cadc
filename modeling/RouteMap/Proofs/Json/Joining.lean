import RouteMap.Proofs.Json.Scalars

/-!
# The tokens of a text in two parts

A token that is complete in front of a cut is not changed by what follows the cut, unless it is a
number that goes on there. So a text has the tokens of its two parts, if all tokens of the first
are complete and the second does not go on with a number (`tokens_append`).
-/

namespace RouteMap.Json

variable {cs ys rest : List Char}

/-- A token that ends where the reader says it does. -/
def Token.Complete : Token → Prop
  | .broken _ _ => False
  | .stray => False
  | _ => True

/-- A token is settled before the next part of the text: something is left behind it, or the next
part does not go on with a number. -/
def Settled (rest ys : List Char) : Prop := rest ≠ [] ∨ NumberEnds ys

/-! ## Strings and words -/

theorem scan_codeUnit {a b c d : Char} {n : Nat} (h : codeUnit? a b c d = some n)
    (cs : List Char) :
    scan ('\\' :: 'u' :: a :: b :: c :: d :: cs) = (scan cs).cons (.unit n) := by
  rw [scan.eq_def]
  simp [h]

/-- A string that is closed is closed at the same place in a longer text. -/
theorem scan_append (h : (scan cs).stop = .closed rest) (ys : List Char) :
    scan (cs ++ ys) = ⟨(scan cs).pieces, .closed (rest ++ ys)⟩ := by
  fun_induction scan cs generalizing rest with
  | case1 => cases h
  | case2 cs =>
    obtain rfl := Stop.closed.inj h
    rw [List.cons_append, scan.eq_def]
    simp
  | case3 => cases h
  | case4 a b c d cs n hn _ ih =>
    simp only [List.cons_append]
    rw [scan_codeUnit hn, ih h]
    rfl
  | case5 => exact absurd h (badUnit_ne_closed _ _)
  | case6 => exact absurd h (badUnit_ne_closed _ _)
  | case7 e cs hu c he _ ih =>
    simp only [List.cons_append]
    rw [scan_letter hu he, ih h]
    rfl
  | case8 => cases h
  | case9 => cases h
  | case10 c cs hquote hslash hcontrol ih =>
    rw [List.cons_append, scan_plain hquote hslash hcontrol, ih h]
    rfl

theorem stringToken_append (h : (stringToken cs).1.Complete) (ys : List Char) :
    stringToken (cs ++ ys) = ((stringToken cs).1, (stringToken cs).2 ++ ys) := by
  unfold stringToken at h ⊢
  cases hstop : (scan cs).stop with
  | closed rest =>
    simp only [scan_append hstop, hstop]
    cases characters (scan cs).pieces <;> rfl
  | ended =>
    simp only [hstop] at h
    split at h <;> cases h
  | malformed =>
    simp only [hstop] at h
    cases h

theorem wordToken_append {site : Site} {t : Token} {letters : List Char}
    (h : (wordToken site t letters cs).1.Complete) (ys : List Char) :
    wordToken site t letters (cs ++ ys) =
      ((wordToken site t letters cs).1, (wordToken site t letters cs).2 ++ ys) := by
  induction letters generalizing cs with
  | nil => rfl
  | cons letter letters ih =>
    cases cs with
    | nil => cases h
    | cons c cs =>
      simp only [List.cons_append, wordToken] at h ⊢
      split
      · next hc =>
        rw [if_pos hc] at h
        exact ih h
      · next hc =>
        rw [if_neg hc] at h
        cases h

/-! ## Numbers -/

theorem Settled.mono {rest' : List Char} (h : Settled rest ys)
    (hlength : rest.length ≤ rest'.length) : Settled rest' ys := by
  refine h.imp_left fun hne hnil => hne ?_
  rw [hnil] at hlength
  exact List.eq_nil_of_length_eq_zero (Nat.le_zero.mp hlength)

/-- Digits are cut off the text in the same way if more text follows. -/
theorem span_digits_append (h : Settled (cs.dropWhile Char.isDigit) ys) :
    (cs ++ ys).takeWhile Char.isDigit = cs.takeWhile Char.isDigit ∧
      (cs ++ ys).dropWhile Char.isDigit = cs.dropWhile Char.isDigit ++ ys := by
  by_cases hall : cs.dropWhile Char.isDigit = []
  · have hends : NumberEnds ys := h.resolve_left (absurd hall)
    have hdigits : ∀ c ∈ cs, c.isDigit = true := List.dropWhile_eq_nil_iff.mp hall
    have hstop : ys.takeWhile Char.isDigit = [] ∧ ys.dropWhile Char.isDigit = ys := by
      cases ys with
      | nil => exact ⟨rfl, rfl⟩
      | cons c ys => simp [(hends c rfl).1]
    rw [List.takeWhile_append_of_pos hdigits, List.dropWhile_append_of_pos hdigits, hstop.1,
      hstop.2, hall, List.append_nil, List.takeWhile_eq_self_iff.mpr hdigits]
    exact ⟨rfl, rfl⟩
  · have hne : (cs.dropWhile Char.isDigit).isEmpty = false := by simpa using hall
    refine ⟨?_, by rw [List.dropWhile_append, hne]; rfl⟩
    have hlength : (cs.takeWhile Char.isDigit).length ≠ cs.length := by
      have hsplit := length_dropWhile_add Char.isDigit cs
      have hpos := List.length_pos_iff.mpr hall
      omega
    rw [List.takeWhile_append, if_neg hlength]

theorem wholePart_append {digits : List Char} (h : wholePart cs = .ok (digits, rest))
    (hsettled : Settled rest ys) : wholePart (cs ++ ys) = .ok (digits, rest ++ ys) := by
  have hrest : cs.dropWhile Char.isDigit = rest := by
    simp only [wholePart] at h
    split at h <;> simp_all
  obtain ⟨htake, hdrop⟩ := span_digits_append (hrest ▸ hsettled)
  simp only [wholePart, htake, hdrop] at h ⊢
  -- which of the cases it is depends on the digits alone
  generalize cs.takeWhile Char.isDigit = ds at h ⊢
  split at h <;> simp_all

theorem fractionPart_cons_of_ne {c : Char} (h : c ≠ '.') (cs : List Char) :
    fractionPart (c :: cs) = .ok ([], c :: cs) := by
  unfold fractionPart
  split
  · next heq => exact absurd (List.cons.inj heq).1 h
  · rfl

theorem fractionPart_append {digits : List Char} (h : fractionPart cs = .ok (digits, rest))
    (hsettled : Settled rest ys) : fractionPart (cs ++ ys) = .ok (digits, rest ++ ys) := by
  cases cs with
  | nil =>
    obtain ⟨rfl, rfl⟩ := Prod.mk.inj (Except.ok.inj h)
    exact fractionPart_of_numberEnds (hsettled.resolve_left (absurd rfl))
  | cons c cs =>
    by_cases hpoint : c = '.'
    · subst hpoint
      simp only [fractionPart, List.cons_append] at h ⊢
      split at h
      · cases h
      · next hdigits =>
        obtain ⟨rfl, rfl⟩ := Prod.mk.inj (Except.ok.inj h)
        obtain ⟨htake, hdrop⟩ := span_digits_append hsettled
        rw [htake, hdrop, if_neg hdigits]
    · rw [fractionPart_cons_of_ne hpoint] at h
      obtain ⟨rfl, rfl⟩ := Prod.mk.inj (Except.ok.inj h)
      exact fractionPart_cons_of_ne hpoint (cs ++ ys)

theorem exponentSign_append (h : cs ≠ []) (ys : List Char) :
    exponentSign (cs ++ ys) = ((exponentSign cs).1, (exponentSign cs).2 ++ ys) := by
  obtain ⟨c, cs, rfl⟩ := List.exists_cons_of_ne_nil h
  by_cases hplus : c = '+'
  · subst hplus
    rfl
  by_cases hminus : c = '-'
  · subst hminus
    rfl
  have hplain : ∀ ds, exponentSign (c :: ds) = (false, c :: ds) := by
    intro ds
    unfold exponentSign
    split
    · next heq => exact absurd (List.cons.inj heq).1 hplus
    · next heq => exact absurd (List.cons.inj heq).1 hminus
    · rfl
  rw [List.cons_append, hplain, hplain]
  rfl

theorem exponentPart_append {e : Option (Bool × List Char)} (h : exponentPart cs = .ok (e, rest))
    (hsettled : Settled rest ys) : exponentPart (cs ++ ys) = .ok (e, rest ++ ys) := by
  cases cs with
  | nil =>
    obtain ⟨rfl, rfl⟩ := Prod.mk.inj (Except.ok.inj h)
    exact exponentPart_of_numberEnds (hsettled.resolve_left (absurd rfl))
  | cons c cs =>
    simp only [exponentPart, List.cons_append] at h ⊢
    by_cases hletter : c = 'e' ∨ c = 'E'
    · rw [if_pos hletter] at h ⊢
      by_cases hdigits : ((exponentSign cs).2.takeWhile Char.isDigit).isEmpty = true
      · rw [if_pos hdigits] at h
        cases h
      · rw [if_neg hdigits] at h
        obtain ⟨rfl, rfl⟩ := Prod.mk.inj (Except.ok.inj h)
        have hne : cs ≠ [] := by
          rintro rfl
          exact hdigits rfl
        obtain ⟨htake, hdrop⟩ := span_digits_append hsettled
        simp only [exponentSign_append hne, htake, hdrop]
        rw [if_neg hdigits]
    · rw [if_neg hletter] at h ⊢
      obtain ⟨rfl, rfl⟩ := Prod.mk.inj (Except.ok.inj h)
      rfl

theorem literal_append {negative : Bool} {l : Literal} (h : literal negative cs = .ok (l, rest))
    (hsettled : Settled rest ys) : literal negative (cs ++ ys) = .ok (l, rest ++ ys) := by
  unfold literal at h ⊢
  cases hwhole : wholePart cs with
  | error f => simp [hwhole, bind, Except.bind] at h
  | ok whole =>
    cases hfraction : fractionPart whole.2 with
    | error f => simp [hwhole, hfraction, bind, Except.bind] at h
    | ok fraction =>
      cases hexponent : exponentPart fraction.2 with
      | error f => simp [hwhole, hfraction, hexponent, bind, Except.bind] at h
      | ok exponent =>
        simp only [hwhole, hfraction, hexponent, bind, Except.bind, pure, Except.pure,
          Except.ok.injEq, Prod.mk.injEq] at h
        obtain ⟨rfl, rfl⟩ := h
        -- each part leaves at least what the next one leaves
        have hfractionSettled : Settled fraction.2 ys :=
          hsettled.mono (exponentPart_length hexponent)
        have hwholeSettled : Settled whole.2 ys :=
          hfractionSettled.mono (fractionPart_length hfraction)
        simp only [wholePart_append hwhole hwholeSettled,
          fractionPart_append hfraction hfractionSettled, exponentPart_append hexponent hsettled,
          bind, Except.bind, pure, Except.pure]

theorem numberToken_append {negative : Bool} (h : (numberToken negative cs).1.Complete)
    (hsettled : Settled (numberToken negative cs).2 ys) :
    numberToken negative (cs ++ ys) =
      ((numberToken negative cs).1, (numberToken negative cs).2 ++ ys) := by
  unfold numberToken at h hsettled ⊢
  cases hliteral : literal negative cs with
  | error f =>
    rw [hliteral] at h
    cases h
  | ok parts =>
    obtain ⟨l, rest⟩ := parts
    simp only [hliteral] at hsettled
    have hrest : Settled rest ys := by
      cases hvalue : l.value? <;> rwa [hvalue] at hsettled
    simp only [literal_append hliteral hrest]
    cases l.value? <;> rfl

/-! ## Tokens -/

/-- What is read in a text and in a longer one: if it is complete, the same token, and all that is
longer is left. -/
def SameToken (ys : List Char) (read longer : Token × List Char) : Prop :=
  read.1.Complete → Settled read.2 ys → longer = (read.1, read.2 ++ ys)

theorem SameToken.ite {p : Prop} [Decidable p] {a b a' b' : Token × List Char}
    (ha : SameToken ys a a') (hb : SameToken ys b b') :
    SameToken ys (if p then a else b) (if p then a' else b') := by
  split
  · exact ha
  · exact hb

/-- A complete token is the same in a longer text. -/
theorem sameToken_token (c : Char) (cs ys : List Char) :
    SameToken ys (token c cs) (token c (cs ++ ys)) := by
  have hmark : ∀ t, SameToken ys (t, cs) (t, cs ++ ys) := fun _ _ _ => rfl
  have hstray : SameToken ys (.stray, []) (.stray, []) := fun h => h.elim
  have hnumber : SameToken ys (numberToken false (c :: cs)) (numberToken false (c :: (cs ++ ys))) :=
    numberToken_append
  have hword : ∀ site t letters, SameToken ys (wordToken site t letters cs)
      (wordToken site t letters (cs ++ ys)) := fun _ _ _ h _ => wordToken_append h ys
  exact .ite (hmark _) <| .ite (hmark _) <| .ite (hmark _) <| .ite (hmark _) <|
    .ite (hmark _) <| .ite (hmark _) <| .ite (fun h _ => stringToken_append h ys) <|
    .ite numberToken_append <| .ite hnumber <| .ite (hword _ _ _) <| .ite (hword _ _ _) <|
    .ite (hword _ _ _) hstray

/-- **The tokens of a text in two parts are those of the parts**, if those of the first part are
complete and the second does not go on with a number. -/
theorem tokens_append {xs : List Char} (h : ∀ t ∈ tokens xs, t.Complete) (hends : NumberEnds ys) :
    tokens (xs ++ ys) = tokens xs ++ tokens ys := by
  fun_induction tokens xs with
  | case1 => rfl
  | case2 c cs hspace ih =>
    rw [List.cons_append, tokens_space hspace, ih h]
  | case3 c cs hspace ih =>
    obtain ⟨hfirst, hothers⟩ := List.forall_mem_cons.mp h
    have hspace : isSpace c = false := by simpa using hspace
    rw [List.cons_append, tokens_cons hspace, sameToken_token c cs ys hfirst (.inr hends),
      ih hothers]
    rfl

end RouteMap.Json
