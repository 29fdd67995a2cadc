import RouteMap.Json.Printer
import RouteMap.Json.Token
import RouteMap.Proofs.Text.Numeral

/-!
# Strings and numbers that were written

The writer turns a string into characters between quotes and an integer into digits.
Behind each of them the token reader finds what was written and leaves the rest of the
text alone. A string says by its quote where it ends. A number does not, so what comes
next must not continue it (`NumberEnds`).
-/

namespace RouteMap.Json

/-! ## Strings -/

theorem hexValue?_hexDigit : ∀ n < 16, hexValue? (hexDigit n) = some n := by
  decide

theorem codeUnit?_hexDigits {n : Nat} (h : n < 32) :
    codeUnit? '0' '0' (hexDigit (n / 16)) (hexDigit (n % 16)) = some n := by
  have hzero : hexValue? '0' = some 0 := by decide
  have hhigh := hexValue?_hexDigit (n / 16) (by omega)
  have hlow := hexValue?_hexDigit (n % 16) (by omega)
  have hsum : ((0 * 16 + 0) * 16 + n / 16) * 16 + n % 16 = n := by omega
  simp only [codeUnit?, hzero, hhigh, hlow, Option.bind_eq_bind, Option.bind_some, hsum]
  rfl

/-- What a piece of a scanned string stands for. -/
def Piece.StandsFor (p : Piece) (c : Char) : Prop :=
  ∀ ps, characters (p :: ps) = (characters ps).map (c :: ·)

theorem Piece.char_standsFor (c : Char) : (Piece.char c).StandsFor c := fun _ => rfl

/-- The code unit of a character that needs no surrogates stands for the character. -/
theorem Piece.unit_standsFor {c : Char} (h : c.toNat < 0xD800) :
    (Piece.unit c.toNat).StandsFor c := by
  intro ps
  have hhigh : isHigh c.toNat = false := by
    simp only [isHigh, Bool.and_eq_false_iff, decide_eq_false_iff_not]
    omega
  have hlow : isLow c.toNat = false := by
    simp only [isLow, Bool.and_eq_false_iff, decide_eq_false_iff_not]
    omega
  rw [characters.eq_def]
  simp only [hhigh, hlow, Bool.false_eq_true, if_false, Char.ofNat_toNat]

/-- A backslash and a letter are scanned as the character that the letter stands for. -/
theorem scan_letter {e c : Char} (hu : e ≠ 'u') (he : escaped? e = some c) (cs : List Char) :
    scan ('\\' :: e :: cs) = (scan cs).cons (.char c) := by
  rw [scan.eq_def]
  simp [hu, he]

/-- A control character in hexadecimal digits is scanned as a code unit. -/
theorem scan_unit {n : Nat} (h : n < 32) (cs : List Char) :
    scan ('\\' :: 'u' :: '0' :: '0' :: hexDigit (n / 16) :: hexDigit (n % 16) :: cs) =
      (scan cs).cons (.unit n) := by
  rw [scan.eq_def]
  simp [codeUnit?_hexDigits h]

/-- A character without escape is scanned as itself. -/
theorem scan_plain {c : Char} (hq : c ≠ '"') (hb : c ≠ '\\') (h : ¬c.toNat < 0x20)
    (cs : List Char) : scan (c :: cs) = (scan cs).cons (.char c) := by
  rw [scan.eq_def]
  simp only [hq, hb, h, if_false]

/-- Whatever a character is written as is scanned as one piece that stands for it. -/
theorem exists_piece (c : Char) :
    ∃ p : Piece, p.StandsFor c ∧ ∀ cs, scan (escape c ++ cs) = (scan cs).cons p := by
  have letter : ∀ e, e ≠ 'u' → escaped? e = some c →
      ∃ p : Piece, p.StandsFor c ∧ ∀ cs, scan (['\\', e] ++ cs) = (scan cs).cons p :=
    fun e hu he => ⟨.char c, Piece.char_standsFor c, scan_letter hu he⟩
  -- one case for each line of `escape`
  unfold escape
  split
  · next h => exact letter '"' (by decide) (by rw [h]; rfl)
  split
  · next h => exact letter '\\' (by decide) (by rw [h]; rfl)
  split
  · next h => exact letter 'n' (by decide) (by rw [h]; rfl)
  split
  · next h => exact letter 'r' (by decide) (by rw [h]; rfl)
  split
  · next h => exact letter 't' (by decide) (by rw [h]; rfl)
  split
  · next h => exact letter 'b' (by decide) (by rw [h]; rfl)
  split
  · next h => exact letter 'f' (by decide) (by rw [h]; rfl)
  split
  · next h =>
    exact ⟨.unit c.toNat, Piece.unit_standsFor (by omega), fun cs => scan_unit h cs⟩
  · next hq hb _ _ _ _ _ h =>
    exact ⟨.char c, Piece.char_standsFor c, fun cs => scan_plain hq hb h cs⟩

/-- The characters of a written string are scanned up to its closing quote. -/
theorem scan_escaped (cs rest : List Char) :
    ∃ ps, scan (cs.flatMap escape ++ '"' :: rest) = ⟨ps, .closed rest⟩ ∧
      characters ps = some cs := by
  induction cs with
  | nil =>
    refine ⟨[], ?_, rfl⟩
    rw [List.flatMap_nil, List.nil_append, scan.eq_def]
    simp
  | cons c cs ih =>
    obtain ⟨ps, hscan, hchars⟩ := ih
    obtain ⟨p, hp, hpiece⟩ := exists_piece c
    refine ⟨p :: ps, ?_, ?_⟩
    · rw [List.flatMap_cons, List.append_assoc, hpiece, hscan]
      rfl
    · rw [hp ps, hchars]
      rfl

/-- A string behind its opening quote is read as it was before it was written. -/
theorem stringToken_escaped (s : String) (rest : List Char) :
    stringToken (s.toList.flatMap escape ++ '"' :: rest) = (.string s, rest) := by
  obtain ⟨ps, hscan, hchars⟩ := scan_escaped s.toList rest
  simp only [stringToken, hscan, hchars, String.ofList_toList]

/-! ## Numbers -/

/-- The text does not go on with a character that could continue a number. -/
def NumberEnds (rest : List Char) : Prop :=
  ∀ c ∈ rest.head?, c.isDigit = false ∧ c ≠ '.' ∧ c ≠ 'e' ∧ c ≠ 'E'

theorem numberEnds_nil : NumberEnds [] := by simp [NumberEnds]

theorem numberEnds_cons {c : Char} (cs : List Char)
    (h : c.isDigit = false ∧ c ≠ '.' ∧ c ≠ 'e' ∧ c ≠ 'E') : NumberEnds (c :: cs) := by
  intro d hd
  obtain rfl : c = d := by simpa using hd
  exact h

/-- The digits of a number have no superfluous zero in front. -/
theorem decimal_eq_zero_or_head (n : Nat) :
    Text.decimal n = ['0'] ∨ ∃ d ds, Text.decimal n = d :: ds ∧ d ≠ '0' := by
  induction n using Nat.strongRecOn with
  | ind n ih =>
    unfold Text.decimal at ih ⊢
    by_cases hlt : n < 10
    · -- a single digit
      rw [Nat.toDigits_of_lt_base hlt]
      have hdigit : ∀ k < 10, k.digitChar = '0' ∨ k.digitChar ≠ '0' := by decide
      rcases hdigit n hlt with hzero | hne
      · exact Or.inl (by rw [hzero])
      · exact Or.inr ⟨_, [], rfl, hne⟩
    · -- the front is that of the number without its last digit, which is not zero
      rw [Nat.toDigits_of_base_le (by decide) (by omega)]
      have hpos : 0 < n / 10 := by omega
      rcases ih (n / 10) (by omega) with hzero | ⟨d, ds, hcons, hne⟩
      · have hback : Nat.ofDigitChars 10 (Nat.toDigits 10 (n / 10)) 0 = n / 10 :=
          Nat.ofDigitChars_ten_toDigits
        rw [hzero] at hback
        have hnull : Nat.ofDigitChars 10 ['0'] 0 = 0 := by decide
        omega
      · exact Or.inr ⟨d, _, by rw [hcons]; rfl, hne⟩

/-- The digits of a number are cut off the text exactly. -/
theorem span_decimal (n : Nat) {rest : List Char} (h : NumberEnds rest) :
    (Text.decimal n ++ rest).takeWhile Char.isDigit = Text.decimal n ∧
      (Text.decimal n ++ rest).dropWhile Char.isDigit = rest := by
  have hstop : rest.takeWhile Char.isDigit = [] ∧ rest.dropWhile Char.isDigit = rest := by
    cases rest with
    | nil => simp
    | cons c cs => simp [(h c rfl).1]
  rw [List.takeWhile_append_of_pos fun c hc => Text.isDigit_of_mem_decimal hc,
    List.dropWhile_append_of_pos fun c hc => Text.isDigit_of_mem_decimal hc, hstop.1, hstop.2,
    List.append_nil]
  exact ⟨rfl, rfl⟩

theorem wholePart_decimal (n : Nat) {rest : List Char} (h : NumberEnds rest) :
    wholePart (Text.decimal n ++ rest) = .ok (Text.decimal n, rest) := by
  obtain ⟨htake, hdrop⟩ := span_decimal n h
  simp only [wholePart, htake, hdrop]
  rcases decimal_eq_zero_or_head n with hzero | ⟨d, ds, hcons, hne⟩
  · rw [hzero]
    rfl
  · rw [hcons]
    split
    · contradiction
    · rfl
    · next heq => exact absurd (List.cons.inj heq).1 hne
    · rfl

theorem fractionPart_of_numberEnds {rest : List Char} (h : NumberEnds rest) :
    fractionPart rest = .ok ([], rest) := by
  unfold fractionPart
  split
  · next cs => exact absurd rfl (h '.' rfl).2.1
  · rfl

theorem exponentPart_of_numberEnds {rest : List Char} (h : NumberEnds rest) :
    exponentPart rest = .ok (none, rest) := by
  cases rest with
  | nil => rfl
  | cons c cs =>
    have hc := h c rfl
    simp [exponentPart, hc.2.2.1, hc.2.2.2]

theorem literal_decimal (negative : Bool) (n : Nat) {rest : List Char} (h : NumberEnds rest) :
    literal negative (Text.decimal n ++ rest) =
      .ok (⟨negative, Text.decimal n, [], none⟩, rest) := by
  simp only [literal, wholePart_decimal n h, fractionPart_of_numberEnds h,
    exponentPart_of_numberEnds h, bind, Except.bind]
  rfl

theorem Literal.value?_decimal {n : Nat} (h : n < 0x10000000000000000) :
    (Literal.mk false (Text.decimal n) [] none).value? = some (.integer n) := by
  have hback : Nat.ofDigitChars 10 (Text.decimal n) 0 = n := Nat.ofDigitChars_ten_toDigits
  simp only [Literal.value?, hback]
  exact if_pos (by simpa using h)

theorem Literal.value?_negative_decimal {n : Nat} (hpos : 0 < n) (h : n ≤ 0x8000000000000000) :
    (Literal.mk true (Text.decimal n) [] none).value? = some (.integer (-n)) := by
  have hback : Nat.ofDigitChars 10 (Text.decimal n) 0 = n := Nat.ofDigitChars_ten_toDigits
  simp only [Literal.value?, hback]
  rw [if_neg (by simp)]
  exact if_pos (by simpa using And.intro hpos h)

/-- A number that is read exactly as it was written: an integer that fits 64 bits, with
or without sign. -/
def Number.Exact : Number → Prop
  | .integer n => -0x8000000000000000 ≤ n ∧ n < 0x10000000000000000
  | .float _ => False

theorem ne_of_isDigit {c d : Char} (hc : c.isDigit = true) (hd : d.isDigit = false) :
    c ≠ d := by
  rintro rfl
  rw [hc] at hd
  contradiction

theorem token_digit {c : Char} (h : c.isDigit = true) (cs : List Char) :
    token c cs = numberToken false (c :: cs) := by
  have hne : ∀ {d : Char}, d.isDigit = false → c ≠ d := ne_of_isDigit h
  unfold token
  rw [if_neg (hne rfl), if_neg (hne rfl), if_neg (hne rfl), if_neg (hne rfl),
    if_neg (hne rfl), if_neg (hne rfl), if_neg (hne rfl), if_neg (hne rfl), if_pos h]

/-! ## The first token of a text -/

theorem tokens_space {c : Char} (h : isSpace c = true) (cs : List Char) :
    tokens (c :: cs) = tokens cs := by
  rw [tokens, if_pos h]

theorem tokens_cons {c : Char} (h : isSpace c = false) (cs : List Char) :
    tokens (c :: cs) = (token c cs).1 :: tokens (token c cs).2 := by
  rw [tokens, if_neg (by simp [h])]

theorem tokens_quote (s : String) (rest : List Char) :
    tokens (quote s ++ rest) = .string s :: tokens rest := by
  have htoken : token '"' (s.toList.flatMap escape ++ '"' :: rest) = (.string s, rest) :=
    stringToken_escaped s rest
  simp only [quote, List.cons_append, List.append_assoc, List.nil_append]
  rw [tokens_cons rfl, htoken]

theorem tokens_decimal {n : Nat} (hn : n < 0x10000000000000000) {rest : List Char}
    (h : NumberEnds rest) :
    tokens (Text.decimal n ++ rest) = .number (.integer n) :: tokens rest := by
  have hnumber : numberToken false (Text.decimal n ++ rest) = (.number (.integer n), rest) := by
    simp only [numberToken, literal_decimal false n h, Literal.value?_decimal hn]
  -- the first digit says that a number begins here
  obtain ⟨d, ds, hcons⟩ := List.exists_cons_of_ne_nil (l := Text.decimal n) Nat.toDigits_ne_nil
  have hd : d.isDigit = true :=
    Text.isDigit_of_mem_decimal (n := n) (by rw [hcons]; exact List.mem_cons_self)
  have hspace : isSpace d = false := by
    simp [isSpace, ne_of_isDigit hd (d := ' ') rfl, ne_of_isDigit hd (d := '\t') rfl,
      ne_of_isDigit hd (d := '\n') rfl, ne_of_isDigit hd (d := '\r') rfl]
  rw [hcons, List.cons_append] at hnumber ⊢
  rw [tokens_cons hspace, token_digit hd, hnumber]

theorem tokens_negative_decimal {n : Nat} (hpos : 0 < n) (hn : n ≤ 0x8000000000000000)
    {rest : List Char} (h : NumberEnds rest) :
    tokens ('-' :: (Text.decimal n ++ rest)) = .number (.integer (-n)) :: tokens rest := by
  have hnumber : token '-' (Text.decimal n ++ rest) = (.number (.integer (-n)), rest) := by
    show numberToken true (Text.decimal n ++ rest) = _
    simp only [numberToken, literal_decimal true n h, Literal.value?_negative_decimal hpos hn]
  rw [tokens_cons rfl, hnumber]

/-- A written integer that fits 64 bits is one token. -/
theorem tokens_write {n : Number} (hn : n.Exact) {rest : List Char} (h : NumberEnds rest) :
    tokens (n.write ++ rest) = .number n :: tokens rest := by
  cases n with
  | float x => exact hn.elim
  | integer n =>
    obtain ⟨hlow, hhigh⟩ := hn
    cases n with
    | ofNat n => exact tokens_decimal (by simp only [Int.ofNat_eq_natCast] at hhigh; omega) h
    | negSucc n => exact tokens_negative_decimal n.succ_pos (by omega) h

end RouteMap.Json
