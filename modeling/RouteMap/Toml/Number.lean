import RouteMap.Toml.Text

/-!
# TOML numbers

A number is an integer of 64 bits or a float. In both an underscore may stand between
two digits. A float has a fraction, an exponent or both; infinity and what is no number
are written as words. A positive float that is too large for a double is refused, a
negative one is negative infinity.

`integer?` and `float?` take the whole of a text.
-/

namespace RouteMap.Toml

/-! ## Digits -/

/-- The digits of a number in which an underscore may stand between two digits. -/
def digits? (isDigit : Char → Bool) : List Char → Option (List Char)
  | [] => none
  | [c] => if isDigit c then some [c] else none
  | c :: '_' :: cs => if isDigit c then (digits? isDigit cs).map (c :: ·) else none
  | c :: cs => if isDigit c then (digits? isDigit cs).map (c :: ·) else none

/-- The natural number of digits to a base. -/
def natural (base : Nat) (digits : List Char) : Nat :=
  digits.foldl (fun n c => n * base + (hexValue? c).getD 0) 0

/-- The natural number of digits to a base, with underscores. -/
def natural? (base : Nat) (cs : List Char) : Option Nat :=
  (digits? (fun c => (hexValue? c).any (· < base)) cs).map (natural base)

/-- Decimal digits. -/
def decimalDigits? (cs : List Char) : Option (List Char) := digits? Char.isDigit cs

/-- Decimal digits without superfluous zeros in front. -/
def wholeDigits? (cs : List Char) : Option (List Char) :=
  if 1 < cs.length ∧ cs.head? = some '0' then none else decimalDigits? cs

/-- A text without the sign in front of it, and whether that was a minus sign. -/
def unsigned : List Char → Bool × List Char
  | '+' :: cs => (false, cs)
  | '-' :: cs => (true, cs)
  | cs => (false, cs)

/-! ## Integers -/

/-- A decimal integer with an optional sign. -/
def decimal? (cs : List Char) : Option Int := do
  let (negative, cs) := unsigned cs
  let n := natural 10 (← wholeDigits? cs)
  return if negative then -(n : Int) else n

/-- An integer of 64 bits: decimal with an optional sign, or to the base 16, 8 or 2. -/
def integer? (cs : List Char) : Option Int := do
  let n : Int ←
    match cs with
    | '0' :: 'x' :: cs => (natural? 16 cs).map Int.ofNat
    | '0' :: 'o' :: cs => (natural? 8 cs).map Int.ofNat
    | '0' :: 'b' :: cs => (natural? 2 cs).map Int.ofNat
    | cs => decimal? cs
  if -0x8000000000000000 ≤ n ∧ n < 0x8000000000000000 then some n else none

/-! ## Floats -/

/-- The double nearest to `n · 10 ^ e`. All beyond `10 ^ 310` is infinite, and all
below `10 ^ -330` is zero. -/
def nearest (n : Nat) (e : Int) : Float :=
  let leading := e + (Nat.toDigits 10 n).length
  if n = 0 ∨ leading < -330 then 0
  else if 310 < leading then 1 / 0
  else Float.ofScientific n (e < 0) e.natAbs

/-- The exponent behind its letter. -/
def exponent? (cs : List Char) : Option Int := do
  let (negative, cs) := unsigned cs
  let n := natural 10 (← decimalDigits? cs)
  return if negative then -(n : Int) else n

/-- The magnitude of a float: digits with a fraction, an exponent or both. -/
def magnitude? (cs : List Char) : Option Float := do
  let (mantissa, exponent) ←
    match Text.cut (fun c => c = 'e' || c = 'E') cs with
    | some (m, e) => (exponent? e).map fun e => (m, some e)
    | none => some (cs, none)
  match Text.cut (· == '.') mantissa with
  | some (whole, part) =>
    let whole ← wholeDigits? whole
    let part ← decimalDigits? part
    return nearest (natural 10 (whole ++ part)) (exponent.getD 0 - part.length)
  | none =>
    let whole ← wholeDigits? mantissa
    return nearest (natural 10 whole) (← exponent)

/-- A float with an optional sign. -/
def float? (cs : List Char) : Option Float :=
  let (negative, cs) := unsigned cs
  if cs = ['n', 'a', 'n'] then some (0 / 0)
  else if cs = ['i', 'n', 'f'] then some (if negative then -1 / 0 else 1 / 0)
  else match magnitude? cs with
    | some x => if negative then some (-x) else if x.isInf then none else some x
    | none => none

end RouteMap.Toml
