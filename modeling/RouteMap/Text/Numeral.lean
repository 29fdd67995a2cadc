import RouteMap.Text.Split

/-!
# Numerals

Decimal integers are written with the ASCII digits and an optional sign, after
any number of leading zeros. A port takes no minus sign; an order or a status
code takes either sign. Values beyond the type are refused, never wrapped.
-/

namespace RouteMap.Text

/-- The value of a non-empty sequence of ASCII digits. -/
def natural? (cs : List Char) : Option Nat :=
  if !cs.isEmpty && cs.all Char.isDigit then some (Nat.ofDigitChars 10 cs 0) else none

/-- A natural number with an optional plus sign. -/
def unsigned? : List Char → Option Nat
  | '+' :: cs => natural? cs
  | cs => natural? cs

/-- An integer with an optional sign. -/
def signed? : List Char → Option Int
  | '+' :: cs => (natural? cs).map Int.ofNat
  | '-' :: cs => (natural? cs).map fun n => -(n : Int)
  | cs => (natural? cs).map Int.ofNat

/-- A 16-bit port number. -/
def port? (s : String) : Option UInt16 :=
  (unsigned? s.toList).bind fun n => if n < 0x10000 then some (UInt16.ofNat n) else none

/-- A 32-bit integer. -/
def int32? (s : String) : Option Int32 :=
  (signed? s.toList).bind fun n =>
    if -0x80000000 ≤ n ∧ n < 0x80000000 then some (Int32.ofInt n) else none

/-- The decimal digits of a natural number. -/
def decimal (n : Nat) : List Char := Nat.toDigits 10 n

/-- The decimal form of an integer, with a minus sign if it is negative. -/
def integer : Int → List Char
  | .ofNat n => decimal n
  | .negSucc n => '-' :: decimal (n + 1)

end RouteMap.Text
