import RouteMap.Proofs.Text.Trim
import RouteMap.Text.Numeral

/-!
# Laws of numerals

The decimal form of an integer is read back as that integer (`signed?_integer`), and a 32-bit
integer is so whatever blanks stand around its decimal form.

A `Numeral` is an integer as it may be written: blanks around it, a sign, leading zeros. A text is
read as an integer or as a port exactly if it is such a numeral of a value in range
(`int32?_trimmed_eq_some_iff`, `port?_trimmed_eq_some_iff`).
-/

namespace RouteMap.Text

theorem isDigit_of_mem_decimal {n : Nat} {c : Char} (h : c ∈ decimal n) : c.isDigit = true :=
  Nat.isDigit_of_mem_toDigits (by decide) (by decide) h

theorem natural?_decimal (n : Nat) : natural? (decimal n) = some n := by
  have hne : (decimal n).isEmpty = false :=
    List.isEmpty_eq_false_iff.mpr Nat.toDigits_ne_nil
  have hdigits : (decimal n).all Char.isDigit = true :=
    List.all_eq_true.mpr fun c hc => isDigit_of_mem_decimal hc
  have hvalue : Nat.ofDigitChars 10 (decimal n) 0 = n := Nat.ofDigitChars_ten_toDigits
  simp [natural?, hne, hdigits, hvalue]

theorem signed?_of_isDigit {c : Char} (h : c.isDigit = true) (cs : List Char) :
    signed? (c :: cs) = (natural? (c :: cs)).map Int.ofNat := by
  unfold signed?
  split
  · next heq =>
    obtain ⟨rfl, -⟩ := List.cons.inj heq
    cases h
  · next heq =>
    obtain ⟨rfl, -⟩ := List.cons.inj heq
    cases h
  · rfl

theorem signed?_integer (n : Int) : signed? (integer n) = some n := by
  cases n with
  | ofNat n =>
    obtain ⟨d, ds, hcons⟩ := List.exists_cons_of_ne_nil (l := decimal n) Nat.toDigits_ne_nil
    have hd : d.isDigit = true := isDigit_of_mem_decimal (hcons ▸ List.mem_cons_self)
    rw [integer, hcons, signed?_of_isDigit hd, ← hcons, natural?_decimal]
    rfl
  | negSucc n =>
    rw [integer, signed?, natural?_decimal]
    rfl

theorem int32?_integer (n : Int32) : int32? (String.ofList (integer n.toInt)) = some n := by
  have hlow : -0x80000000 ≤ n.toInt := n.le_toInt
  have hhigh : n.toInt < 0x80000000 := n.toInt_lt
  rw [int32?, String.toList_ofList, signed?_integer, Option.bind_some, if_pos ⟨hlow, hhigh⟩,
    Int32.ofInt_toInt]

/-- No character of a decimal form is blank. -/
theorem isBlank_of_mem_integer {n : Int} {c : Char} (h : c ∈ integer n) : isBlank c = false := by
  cases n with
  | ofNat n => exact isBlank_of_isDigit (isDigit_of_mem_decimal h)
  | negSucc n =>
    rcases List.mem_cons.mp h with rfl | h
    · decide
    · exact isBlank_of_isDigit (isDigit_of_mem_decimal h)

theorem trim_integer (n : Int) : trim (integer n) = integer n :=
  trim_eq_self_of_forall fun _ hc => isBlank_of_mem_integer hc

/-! ## Digits -/

theorem decimal_of_isDigit {d : Char} (h : d.isDigit = true) :
    d.toNat - '0'.toNat < 10 ∧ decimal (d.toNat - '0'.toNat) = [d] := by
  obtain ⟨hlow, hhigh⟩ := Char.isDigit_iff_toNat.mp h
  have hlt : d.toNat - '0'.toNat < 10 := by
    rw [Nat.sub_lt_iff_lt_add hlow]
    exact Nat.lt_succ_of_le hhigh
  have hchar : Nat.digitChar (d.toNat - '0'.toNat) = d := by
    rw [← Char.toNat_inj, Nat.toNat_digitChar_of_lt_ten hlt]
    exact Nat.add_sub_of_le hlow
  exact ⟨hlt, by rw [decimal, Nat.toDigits_of_lt_base hlt, hchar]⟩

/-- Digits are leading zeros and the decimal form of their value. -/
theorem exists_eq_zeros_append_decimal {ds : List Char} (hne : ds ≠ [])
    (h : ∀ d ∈ ds, d.isDigit = true) :
    ∃ zeros, ds = List.replicate zeros '0' ++ decimal (Nat.ofDigitChars 10 ds 0) := by
  induction ds using List.reverseRecOn with
  | nil => exact absurd rfl hne
  | append_singleton ds d ih =>
    obtain ⟨hds, hd⟩ := List.forall_mem_append.mp h
    obtain ⟨hlt, hdecimal⟩ := decimal_of_isDigit (hd d (List.mem_singleton_self d))
    by_cases hnil : ds = []
    · subst hnil
      exact ⟨0, by simpa [Nat.ofDigitChars] using hdecimal.symm⟩
    obtain ⟨zeros, hzeros⟩ := ih hnil hds
    rw [Nat.ofDigitChars_append, Nat.ofDigitChars_cons, Nat.ofDigitChars_nil]
    generalize Nat.ofDigitChars 10 ds 0 = n at hzeros ⊢
    by_cases hn : n = 0
    · -- all digits so far are zeros, the last of them as the decimal form of their value
      refine ⟨zeros + 1, ?_⟩
      rw [hzeros, hn, Nat.mul_zero, Nat.zero_add, hdecimal, List.replicate_succ']
      rfl
    · refine ⟨zeros, ?_⟩
      have hstep : decimal n ++ [d] = decimal (10 * n + (d.toNat - '0'.toNat)) := by
        rw [← hdecimal]
        exact Nat.toDigits_append_toDigits (by decide) (by omega) hlt
      rw [← hstep, ← List.append_assoc, ← hzeros]

theorem isDigit_of_mem_zeros_append_decimal {zeros n : Nat} {c : Char}
    (h : c ∈ List.replicate zeros '0' ++ decimal n) : c.isDigit = true := by
  rcases List.mem_append.mp h with h | h
  · rw [List.eq_of_mem_replicate h]
    rfl
  · exact isDigit_of_mem_decimal h

theorem natural?_eq_some_iff {cs : List Char} {n : Nat} :
    natural? cs = some n ↔ ∃ zeros, cs = List.replicate zeros '0' ++ decimal n := by
  constructor
  · intro h
    unfold natural? at h
    split at h
    · next hdigits =>
      rw [← Option.some.inj h]
      simp only [Bool.and_eq_true, Bool.not_eq_true', List.isEmpty_eq_false_iff,
        List.all_eq_true] at hdigits
      exact exists_eq_zeros_append_decimal hdigits.1 hdigits.2
    · cases h
  · rintro ⟨zeros, rfl⟩
    have hne : (List.replicate zeros '0' ++ decimal n).isEmpty = false := by
      simp [decimal]
    have hdigits : (List.replicate zeros '0' ++ decimal n).all Char.isDigit = true :=
      List.all_eq_true.mpr fun c hc => isDigit_of_mem_zeros_append_decimal hc
    have hvalue : Nat.ofDigitChars 10 (List.replicate zeros '0' ++ decimal n) 0 = n := by
      rw [Nat.ofDigitChars_append, Nat.ofDigitChars_replicate_zero, Nat.mul_zero]
      exact Nat.ofDigitChars_ten_toDigits
    simp [natural?, hne, hdigits, hvalue]

/-! ## Signs -/

/-- What may stand in front of the digits. -/
inductive Sign
  | none
  | plus
  | minus
deriving DecidableEq, Repr

/-- The characters of a sign. -/
def Sign.chars : Sign → List Char
  | none => []
  | plus => ['+']
  | minus => ['-']

/-- The integers that may have a sign; zero may have any. -/
def Sign.Fits : Sign → Int → Prop
  | none, n => 0 ≤ n
  | plus, n => 0 ≤ n
  | minus, n => n ≤ 0

theorem signed?_plus (cs : List Char) : signed? ('+' :: cs) = (natural? cs).map Int.ofNat := rfl

theorem signed?_minus (cs : List Char) :
    signed? ('-' :: cs) = (natural? cs).map fun k : Nat => -(k : Int) := by
  simp only [signed?]
  cases natural? cs <;> rfl

/-- A text with neither sign in front is read as digits. -/
theorem signed?_cases (cs : List Char) :
    (∃ ds, cs = '+' :: ds) ∨ (∃ ds, cs = '-' :: ds) ∨
      signed? cs = (natural? cs).map Int.ofNat := by
  unfold signed?
  split
  · exact .inl ⟨_, rfl⟩
  · exact .inr (.inl ⟨_, rfl⟩)
  · exact .inr (.inr rfl)

theorem signed?_eq_some_iff {cs : List Char} {n : Int} :
    signed? cs = some n ↔ ∃ sign : Sign, sign.Fits n ∧ ∃ zeros,
      cs = sign.chars ++ (List.replicate zeros '0' ++ decimal n.natAbs) := by
  constructor
  · intro h
    have hnatural : ∀ {ds : List Char} {f : Nat → Int}, (natural? ds).map f = some n →
        ∃ k zeros, f k = n ∧ ds = List.replicate zeros '0' ++ decimal k := by
      intro ds f h
      obtain ⟨k, hk, hn⟩ := Option.map_eq_some_iff.mp h
      obtain ⟨zeros, hzeros⟩ := natural?_eq_some_iff.mp hk
      exact ⟨k, zeros, hn, hzeros⟩
    rcases signed?_cases cs with ⟨ds, rfl⟩ | ⟨ds, rfl⟩ | hplain
    · obtain ⟨k, zeros, rfl, rfl⟩ := hnatural (signed?_plus ds ▸ h)
      exact ⟨.plus, Int.natCast_nonneg k, zeros, rfl⟩
    · obtain ⟨k, zeros, rfl, rfl⟩ := hnatural (signed?_minus ds ▸ h)
      refine ⟨.minus, Int.neg_nonpos_of_nonneg (Int.natCast_nonneg k), zeros, ?_⟩
      rw [Int.natAbs_neg]
      rfl
    · obtain ⟨k, zeros, rfl, hdigits⟩ := hnatural (hplain ▸ h)
      exact ⟨.none, Int.natCast_nonneg k, zeros, hdigits⟩
  · rintro ⟨sign, hfits, zeros, rfl⟩
    have hdigits : natural? (List.replicate zeros '0' ++ decimal n.natAbs) = some n.natAbs :=
      natural?_eq_some_iff.mpr ⟨zeros, rfl⟩
    cases sign with
    | none =>
      obtain ⟨d, ds, hcons⟩ := List.exists_cons_of_ne_nil
        (l := List.replicate zeros '0' ++ decimal n.natAbs) (by simp [decimal])
      have hd : d.isDigit = true :=
        isDigit_of_mem_zeros_append_decimal (hcons ▸ List.mem_cons_self)
      rw [Sign.chars, List.nil_append, hcons, signed?_of_isDigit hd, ← hcons, hdigits]
      exact congrArg some (Int.natAbs_of_nonneg hfits)
    | plus =>
      rw [Sign.chars, List.singleton_append, signed?_plus, hdigits]
      exact congrArg some (Int.natAbs_of_nonneg hfits)
    | minus =>
      rw [Sign.chars, List.singleton_append, signed?_minus, hdigits]
      have hvalue : -(n.natAbs : Int) = n := by rw [Int.ofNat_natAbs_of_nonpos hfits, Int.neg_neg]
      exact congrArg some hvalue

theorem unsigned?_cases (cs : List Char) :
    (∃ ds, cs = '+' :: ds) ∨ unsigned? cs = natural? cs := by
  unfold unsigned?
  split
  · exact .inl ⟨_, rfl⟩
  · exact .inr rfl

theorem unsigned?_eq_some_iff {cs : List Char} {n : Nat} :
    unsigned? cs = some n ↔ ∃ sign : Sign, sign ≠ .minus ∧ ∃ zeros,
      cs = sign.chars ++ (List.replicate zeros '0' ++ decimal n) := by
  constructor
  · intro h
    rcases unsigned?_cases cs with ⟨ds, rfl⟩ | hplain
    · obtain ⟨zeros, rfl⟩ := natural?_eq_some_iff.mp h
      exact ⟨.plus, by decide, zeros, rfl⟩
    · obtain ⟨zeros, rfl⟩ := natural?_eq_some_iff.mp (hplain ▸ h)
      exact ⟨.none, by decide, zeros, rfl⟩
  · rintro ⟨sign, hsign, zeros, rfl⟩
    have hdigits : natural? (List.replicate zeros '0' ++ decimal n) = some n :=
      natural?_eq_some_iff.mpr ⟨zeros, rfl⟩
    cases sign with
    | none =>
      -- digits do not begin with a plus sign
      rcases unsigned?_cases (List.replicate zeros '0' ++ decimal n) with ⟨ds, hds⟩ | hplain
      · have hplus := isDigit_of_mem_zeros_append_decimal (hds ▸ List.mem_cons_self)
        cases hplus
      · exact hplain.trans hdigits
    | plus => exact hdigits
    | minus => exact absurd rfl hsign

/-! ## Values in range -/

theorem int32?_eq_some_iff {s : String} {n : Int32} :
    int32? s = some n ↔ signed? s.toList = some n.toInt := by
  have hlow : -0x80000000 ≤ n.toInt := n.le_toInt
  have hhigh : n.toInt < 0x80000000 := n.toInt_lt
  rw [int32?, Option.bind_eq_some_iff]
  constructor
  · rintro ⟨m, hm, hn⟩
    split at hn
    · next hrange =>
      rw [hm, ← Option.some.inj hn, Int32.toInt_ofInt_of_le hrange.1 hrange.2]
    · cases hn
  · intro h
    exact ⟨n.toInt, h, by rw [if_pos ⟨hlow, hhigh⟩, Int32.ofInt_toInt]⟩

theorem port?_eq_some_iff {s : String} {p : UInt16} :
    port? s = some p ↔ unsigned? s.toList = some p.toNat := by
  rw [port?, Option.bind_eq_some_iff]
  constructor
  · rintro ⟨m, hm, hp⟩
    split at hp
    · next hrange =>
      rw [hm, ← Option.some.inj hp, UInt16.toNat_ofNat_of_lt' hrange]
    · cases hp
  · intro h
    exact ⟨p.toNat, h, by rw [if_pos p.toNat_lt, UInt16.ofNat_toNat]⟩

/-! ## Numerals between blanks -/

/-- An integer as it may be written. -/
structure Numeral where
  padding : Padding := {}
  sign : Sign
  zeros : Nat := 0
  value : Int
  fits : sign.Fits value

namespace Numeral

variable (numeral : Numeral)

/-- The sign and the digits. -/
def core : List Char :=
  numeral.sign.chars ++ (List.replicate numeral.zeros '0' ++ decimal numeral.value.natAbs)

/-- The text of a numeral. -/
def text : String := numeral.padding.around (String.ofList numeral.core)

theorem isBlank_of_mem_core {c : Char} (h : c ∈ numeral.core) : isBlank c = false := by
  rcases List.mem_append.mp h with h | h
  · cases hsign : numeral.sign <;> rw [hsign] at h
    · cases h
    all_goals
      rw [List.mem_singleton.mp h]
      decide
  · exact isBlank_of_isDigit (isDigit_of_mem_zeros_append_decimal h)

theorem trimmed_text : trimmed numeral.text = String.ofList numeral.core := by
  refine trimmed_around numeral.padding ?_
  rw [String.toList_ofList]
  exact trim_eq_self_of_forall fun c hc => numeral.isBlank_of_mem_core hc

end Numeral

/-- The text is the integer `n`, written in one of the ways there are. -/
def Writes (text : String) (n : Int) : Prop :=
  ∃ numeral : Numeral, numeral.text = text ∧ numeral.value = n

/-- The text is the number `n`, written without a minus sign. -/
def WritesUnsigned (text : String) (n : Nat) : Prop :=
  ∃ numeral : Numeral, numeral.sign ≠ .minus ∧ numeral.text = text ∧ numeral.value = n

/-- Whatever numeral the text between the blanks is, the whole text is too. -/
theorem exists_numeral_of_trimmed {text : String} {sign : Sign} {zeros : Nat} {value : Int}
    (hfits : sign.Fits value)
    (h : (trimmed text).toList =
      sign.chars ++ (List.replicate zeros '0' ++ decimal value.natAbs)) :
    ∃ numeral : Numeral, numeral.text = text ∧ numeral.sign = sign ∧ numeral.value = value := by
  obtain ⟨padding, htext⟩ := exists_around_trimmed text
  refine ⟨⟨padding, sign, zeros, value, hfits⟩, ?_, rfl, rfl⟩
  rw [Numeral.text, Numeral.core, ← h, String.ofList_toList, htext]

/-- **A text is read as a 32-bit integer exactly if it is this integer written out.** -/
theorem int32?_trimmed_eq_some_iff {text : String} {n : Int32} :
    int32? (trimmed text) = some n ↔ Writes text n.toInt := by
  rw [int32?_eq_some_iff, signed?_eq_some_iff]
  constructor
  · rintro ⟨sign, hfits, zeros, hcore⟩
    obtain ⟨numeral, htext, -, hvalue⟩ := exists_numeral_of_trimmed hfits hcore
    exact ⟨numeral, htext, hvalue⟩
  · rintro ⟨numeral, rfl, hvalue⟩
    rw [numeral.trimmed_text, String.toList_ofList, ← hvalue]
    exact ⟨numeral.sign, numeral.fits, numeral.zeros, rfl⟩

/-- **A text is read as a port exactly if it is this port written out**, without a minus sign. -/
theorem port?_trimmed_eq_some_iff {text : String} {p : UInt16} :
    port? (trimmed text) = some p ↔ WritesUnsigned text p.toNat := by
  rw [port?_eq_some_iff, unsigned?_eq_some_iff]
  constructor
  · rintro ⟨sign, hsign, zeros, hcore⟩
    have hfits : sign.Fits (p.toNat : Int) := by
      cases sign with
      | none | plus => exact Int.natCast_nonneg _
      | minus => exact absurd rfl hsign
    obtain ⟨numeral, htext, rfl, hvalue⟩ := exists_numeral_of_trimmed hfits hcore
    exact ⟨numeral, hsign, htext, hvalue⟩
  · rintro ⟨numeral, hsign, rfl, hvalue⟩
    refine ⟨numeral.sign, hsign, numeral.zeros, ?_⟩
    rw [numeral.trimmed_text, String.toList_ofList, Numeral.core, hvalue, Int.natAbs_natCast]

end RouteMap.Text
