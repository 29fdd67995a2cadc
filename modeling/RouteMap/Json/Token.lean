import RouteMap.Json.Number

/-!
# JSON tokens

`tokens` cuts a text into tokens. The list ends early with `broken` or `stray` at
the first place where no token can be read, so it records how far the text is good
and what is wrong there; `token_length` says that every token takes a character,
and with it the cutting ends. Two kinds of token are complete but have no value: a
number too large for a double, and a string in which half of a surrogate pair
stands alone. They are `unreadable`, which is a fault only for a reader who wants
the value.
-/

namespace RouteMap.Json

/-- Why a text is not a document of the wanted shape. -/
inductive Category where
  /-- The text ends too early. -/
  | incomplete
  /-- The text is not JSON. -/
  | malformed
  /-- The text is JSON, but not of the wanted shape. -/
  | mismatch
deriving DecidableEq, Repr

/-- The place where a text stops being JSON. -/
inductive Site where
  /-- Inside the literal `null`. -/
  | null
  /-- Inside a number or another literal. -/
  | word
  /-- Inside a string or between two tokens. -/
  | other
deriving DecidableEq, Repr

/-- What is wrong at the place where a text stops being JSON. -/
structure Fault where
  /-- The category for a reader who wants the value. -/
  read : Category
  /-- The category for a reader who passes over it. -/
  skipped : Category
  site : Site
deriving DecidableEq, Repr

namespace Fault

/-- The text ends where something is missing. -/
def ended : Fault := ⟨.incomplete, .incomplete, .other⟩

/-- Something stands where it cannot stand. -/
def malformed : Fault := ⟨.malformed, .malformed, .other⟩

end Fault

/-- A token. -/
inductive Token where
  | openArray
  | closeArray
  | openObject
  | closeObject
  | colon
  | comma
  | null
  | bool (b : Bool)
  | number (n : Number)
  | string (s : String)
  /-- A complete number or string that has no value. -/
  | unreadable (quoted : Bool)
  /-- A token that begins well and then goes wrong; the last of its list. -/
  | broken (quoted : Bool) (fault : Fault)
  /-- A character that begins no token; the last of its list. -/
  | stray

/-- The white space between tokens. -/
def isSpace (c : Char) : Bool := c = ' ' || c = '\t' || c = '\n' || c = '\r'

/-! ## Strings -/

/-- An element of a string: a character, or the code unit of a `\u` escape. -/
inductive Piece where
  | char (c : Char)
  | unit (n : Nat)

/-- How a string stops. -/
inductive Stop where
  | closed (rest : List Char)
  | ended
  | malformed

/-- The elements of a string up to its stop. -/
structure Scanned where
  pieces : List Piece
  stop : Stop

/-- A scanned string with an element before it. -/
def Scanned.cons (p : Piece) (s : Scanned) : Scanned := ⟨p :: s.pieces, s.stop⟩

/-- The value of a hexadecimal digit. -/
def hexValue? (c : Char) : Option Nat :=
  let n := c.toNat
  if 48 ≤ n ∧ n ≤ 57 then some (n - 48)
  else if 65 ≤ n ∧ n ≤ 70 then some (n - 55)
  else if 97 ≤ n ∧ n ≤ 102 then some (n - 87)
  else none

/-- The code unit of four hexadecimal digits. -/
def codeUnit? (a b c d : Char) : Option Nat := do
  let a ← hexValue? a
  let b ← hexValue? b
  let c ← hexValue? c
  let d ← hexValue? d
  return ((a * 16 + b) * 16 + c) * 16 + d

/-- A `\u` escape without four hexadecimal digits: the text has ended if fewer than
four bytes are left of it. -/
def badUnit (cs : List Char) : Stop :=
  if (cs.take 4).foldl (fun size c => size + c.utf8Size) 0 < 4 then .ended else .malformed

/-- The character that a letter stands for after a backslash. -/
def escaped? (c : Char) : Option Char :=
  if c = '"' ∨ c = '\\' ∨ c = '/' then some c
  else if c = 'b' then some '\x08'
  else if c = 'f' then some '\x0c'
  else if c = 'n' then some '\n'
  else if c = 'r' then some '\r'
  else if c = 't' then some '\t'
  else none

/-- The elements of a string, read from behind its opening quote. -/
def scan : List Char → Scanned
  | [] => ⟨[], .ended⟩
  | c :: cs =>
    if c = '"' then ⟨[], .closed cs⟩
    else if c = '\\' then
      match cs with
      | [] => ⟨[], .ended⟩
      | e :: cs =>
        if e = 'u' then
          match cs with
          | a :: b :: c :: d :: rest =>
            match codeUnit? a b c d with
            | some n => (scan rest).cons (.unit n)
            | none => ⟨[], badUnit cs⟩
          | _ => ⟨[], badUnit cs⟩
        else match escaped? e with
          | some c => (scan cs).cons (.char c)
          | none => ⟨[], .malformed⟩
    else if c.toNat < 0x20 then ⟨[], .malformed⟩
    else (scan cs).cons (.char c)

/-- The first half of a surrogate pair. -/
def isHigh (n : Nat) : Bool := 0xD800 ≤ n && n ≤ 0xDBFF

/-- The second half of a surrogate pair. -/
def isLow (n : Nat) : Bool := 0xDC00 ≤ n && n ≤ 0xDFFF

/-- The characters of the elements of a string, if every surrogate has its partner. -/
def characters : List Piece → Option (List Char)
  | [] => some []
  | .char c :: ps => (characters ps).map (c :: ·)
  | .unit n :: ps =>
    if isHigh n then
      match ps with
      | .unit m :: ps =>
        if isLow m then
          (characters ps).map (Char.ofNat ((n - 0xD800) * 0x400 + (m - 0xDC00) + 0x10000) :: ·)
        else none
      | _ => none
    else if isLow n then none
    else (characters ps).map (Char.ofNat n :: ·)

/-- The elements without a last first half, whose partner may still come. -/
def withoutPending (ps : List Piece) : List Piece :=
  match ps.getLast? with
  | some (.unit n) => if isHigh n then ps.dropLast else ps
  | _ => ps

/-- The token of a string and what follows it, read from behind the opening quote. -/
def stringToken (cs : List Char) : Token × List Char :=
  let s := scan cs
  match s.stop with
  | .closed rest =>
    match characters s.pieces with
    | some text => (.string (String.ofList text), rest)
    | none => (.unreadable true, rest)
  | .ended =>
    match characters (withoutPending s.pieces) with
    | some _ => (.broken true .ended, [])
    | none => (.broken true ⟨.malformed, .incomplete, .other⟩, [])
  | .malformed => (.broken true .malformed, [])

/-! ## Numbers -/

/-- A digit is missing: at the end of the text, or before something else. -/
def noDigit (rest : List Char) : Fault :=
  if rest.isEmpty then ⟨.incomplete, .malformed, .word⟩ else ⟨.malformed, .malformed, .word⟩

/-- The digits before the point. A zero is not followed by another digit. -/
def wholePart (cs : List Char) : Except Fault (List Char × List Char) :=
  let digits := cs.takeWhile Char.isDigit
  let rest := cs.dropWhile Char.isDigit
  match digits with
  | [] => .error (noDigit rest)
  | ['0'] => .ok (digits, rest)
  | '0' :: _ => .error ⟨.malformed, .malformed, .word⟩
  | _ => .ok (digits, rest)

/-- The digits after a point, if there is one. -/
def fractionPart : List Char → Except Fault (List Char × List Char)
  | '.' :: cs =>
    let digits := cs.takeWhile Char.isDigit
    let rest := cs.dropWhile Char.isDigit
    if digits.isEmpty then .error (noDigit rest) else .ok (digits, rest)
  | cs => .ok ([], cs)

/-- The sign of an exponent. -/
def exponentSign : List Char → Bool × List Char
  | '+' :: cs => (false, cs)
  | '-' :: cs => (true, cs)
  | cs => (false, cs)

/-- The exponent, if there is one. -/
def exponentPart : List Char → Except Fault (Option (Bool × List Char) × List Char)
  | [] => .ok (none, [])
  | c :: cs =>
    if c = 'e' ∨ c = 'E' then
      let (negative, cs) := exponentSign cs
      let digits := cs.takeWhile Char.isDigit
      let rest := cs.dropWhile Char.isDigit
      if digits.isEmpty then .error (noDigit rest) else .ok (some (negative, digits), rest)
    else .ok (none, c :: cs)

/-- The literal of a number without its sign, and what follows it. -/
def literal (negative : Bool) (cs : List Char) : Except Fault (Literal × List Char) := do
  let (whole, cs) ← wholePart cs
  let (fraction, cs) ← fractionPart cs
  let (exponent, cs) ← exponentPart cs
  return (⟨negative, whole, fraction, exponent⟩, cs)

/-- The token of a number without its sign, and what follows it. -/
def numberToken (negative : Bool) (cs : List Char) : Token × List Char :=
  match literal negative cs with
  | .error f => (.broken false f, [])
  | .ok (l, rest) =>
    match l.value? with
    | some n => (.number n, rest)
    | none => (.unreadable false, rest)

/-! ## Tokens -/

/-- The token of a literal whose remaining letters are given. -/
def wordToken (site : Site) (t : Token) : (letters cs : List Char) → Token × List Char
  | [], cs => (t, cs)
  | _ :: _, [] => (.broken false ⟨.incomplete, .incomplete, site⟩, [])
  | l :: ls, c :: cs =>
    if l = c then wordToken site t ls cs
    else (.broken false ⟨.malformed, .malformed, site⟩, [])

/-- The token that begins with a character that is not white space, and what follows it. -/
def token (c : Char) (cs : List Char) : Token × List Char :=
  if c = '[' then (.openArray, cs)
  else if c = ']' then (.closeArray, cs)
  else if c = '\x7b' then (.openObject, cs)
  else if c = '\x7d' then (.closeObject, cs)
  else if c = ':' then (.colon, cs)
  else if c = ',' then (.comma, cs)
  else if c = '"' then stringToken cs
  else if c = '-' then numberToken true cs
  else if c.isDigit then numberToken false (c :: cs)
  else if c = 'n' then wordToken .null .null ['u', 'l', 'l'] cs
  else if c = 't' then wordToken .word (.bool true) ['r', 'u', 'e'] cs
  else if c = 'f' then wordToken .word (.bool false) ['a', 'l', 's', 'e'] cs
  else (.stray, [])

/-! ## What a token leaves is not longer than the text -/

theorem length_dropWhile_le (p : Char → Bool) (cs : List Char) :
    (cs.dropWhile p).length ≤ cs.length :=
  (List.dropWhile_sublist p).length_le

theorem badUnit_ne_closed (cs rest : List Char) : badUnit cs ≠ .closed rest := by
  unfold badUnit
  split <;> simp

theorem scan_length {cs rest : List Char} (h : (scan cs).stop = .closed rest) :
    rest.length ≤ cs.length := by
  fun_induction scan cs generalizing rest with
  | case4 a b c d cs n _ _ ih =>
    have := ih h
    simp only [List.length_cons]
    omega
  | case5 => exact absurd h (badUnit_ne_closed _ _)
  | case6 => exact absurd h (badUnit_ne_closed _ _)
  | case7 e cs _ c _ _ ih =>
    have := ih h
    simp only [List.length_cons]
    omega
  | case10 c cs _ _ _ ih =>
    have := ih h
    simp only [List.length_cons]
    omega
  | _ => simp_all

theorem stringToken_length (cs : List Char) : (stringToken cs).2.length ≤ cs.length := by
  simp only [stringToken]
  split
  · next rest h =>
    have := scan_length h
    split <;> exact this
  · split <;> simp
  · simp

theorem length_dropWhile_add (p : Char → Bool) (cs : List Char) :
    (cs.takeWhile p).length + (cs.dropWhile p).length = cs.length := by
  rw [← List.length_append, List.takeWhile_append_dropWhile]

/-- The part before the point has a digit. -/
theorem wholePart_length {cs digits rest : List Char} (h : wholePart cs = .ok (digits, rest)) :
    rest.length < cs.length := by
  have hd := length_dropWhile_add Char.isDigit cs
  simp only [wholePart] at h
  split at h
  · simp_all
  · next hz =>
    rw [hz] at hd
    simp_all
    omega
  · simp_all
  · next hn _ _ =>
    have hp : 0 < (cs.takeWhile Char.isDigit).length := List.length_pos_iff.2 hn
    simp at h
    rw [← h.2]
    omega

theorem fractionPart_length {cs digits rest : List Char}
    (h : fractionPart cs = .ok (digits, rest)) : rest.length ≤ cs.length := by
  unfold fractionPart at h
  split at h
  · next cs =>
    have hd := length_dropWhile_le Char.isDigit cs
    simp only at h
    split at h <;> simp_all
    omega
  · simp_all

theorem exponentSign_length (cs : List Char) : (exponentSign cs).2.length ≤ cs.length := by
  unfold exponentSign
  split <;> simp

theorem exponentPart_length {cs rest : List Char} {e : Option (Bool × List Char)}
    (h : exponentPart cs = .ok (e, rest)) : rest.length ≤ cs.length := by
  unfold exponentPart at h
  split at h
  · simp_all
  · next c cs =>
    split at h
    · have hs := exponentSign_length cs
      have hd := length_dropWhile_le Char.isDigit (exponentSign cs).2
      simp only at h
      split at h <;> simp_all
      omega
    · simp_all

theorem literal_length {negative : Bool} {cs rest : List Char} {l : Literal}
    (h : literal negative cs = .ok (l, rest)) : rest.length < cs.length := by
  unfold literal at h
  cases hw : wholePart cs with
  | error f => simp [hw, bind, Except.bind] at h
  | ok w =>
    cases hf : fractionPart w.2 with
    | error f => simp [hw, hf, bind, Except.bind] at h
    | ok f =>
      cases he : exponentPart f.2 with
      | error g => simp [hw, hf, he, bind, Except.bind] at h
      | ok e =>
        have h₁ : w.2.length < cs.length := wholePart_length hw
        have h₂ : f.2.length ≤ w.2.length := fractionPart_length hf
        have h₃ : e.2.length ≤ f.2.length := exponentPart_length he
        simp [hw, hf, he, bind, Except.bind, pure, Except.pure] at h
        rw [← h.2]
        omega

theorem numberToken_length (negative : Bool) (cs : List Char) :
    (numberToken negative cs).2.length ≤ cs.length := by
  unfold numberToken
  split
  · simp
  · next l rest h =>
    have := literal_length h
    split <;> exact Nat.le_of_lt this

theorem numberToken_length_lt (negative : Bool) (c : Char) (cs : List Char) :
    (numberToken negative (c :: cs)).2.length < (c :: cs).length := by
  unfold numberToken
  split
  · simp
  · next l rest h =>
    have := literal_length h
    split <;> exact this

theorem wordToken_length (site : Site) (t : Token) (letters cs : List Char) :
    (wordToken site t letters cs).2.length ≤ cs.length := by
  induction letters generalizing cs with
  | nil => simp [wordToken]
  | cons l ls ih =>
    cases cs with
    | nil => simp [wordToken]
    | cons c cs =>
      have := ih cs
      simp only [wordToken]
      split
      · simp only [List.length_cons]
        omega
      · simp

theorem ite_length_lt {p : Prop} [Decidable p] {a b : Token × List Char} {n : Nat}
    (ha : a.2.length < n) (hb : b.2.length < n) : (if p then a else b).2.length < n := by
  split
  · exact ha
  · exact hb

/-- A token takes at least one character. -/
theorem token_length (c : Char) (cs : List Char) : (token c cs).2.length < (c :: cs).length := by
  have hc : cs.length < (c :: cs).length := by simp
  have hs := Nat.lt_succ_of_le (stringToken_length cs)
  have hn := Nat.lt_succ_of_le (numberToken_length true cs)
  have hd := numberToken_length_lt false c cs
  have hw := fun site t letters => Nat.lt_succ_of_le (wordToken_length site t letters cs)
  exact ite_length_lt hc <| ite_length_lt hc <| ite_length_lt hc <| ite_length_lt hc <|
    ite_length_lt hc <| ite_length_lt hc <| ite_length_lt hs <| ite_length_lt hn <|
    ite_length_lt hd <| ite_length_lt (hw _ _ _) <| ite_length_lt (hw _ _ _) <|
    ite_length_lt (hw _ _ _) <| by simp

/-! ## The list of tokens -/

/-- The tokens of a text. The list ends with the first token that is no token. -/
def tokens : List Char → List Token
  | [] => []
  | c :: cs =>
    if isSpace c then tokens cs else (token c cs).1 :: tokens (token c cs).2
termination_by cs => cs.length
decreasing_by
  · simp
  · exact token_length c cs

end RouteMap.Json
