import RouteMap.Json.Basic

/-!
# Reading JSON numbers

A `Literal` is a number as it is written. Without fraction and exponent it is an
integer, as long as it fits 64 bits and is not the negative zero. Every other
literal is a double: its leading digits, as many as fit 64 bits, are scaled by a
power of ten in double arithmetic. A literal too large for a double has no value.
-/

namespace RouteMap.Json

/-- A number as written: sign, digits before and after the point, and an exponent
with its sign. -/
structure Literal where
  negative : Bool
  whole : List Char
  fraction : List Char
  exponent : Option (Bool × List Char)

namespace Literal

/-- The value of a digit. -/
def digit (c : Char) : Nat := c.toNat - 48

/-- The digits before the point, as many as fit 64 bits, and how many were left. -/
def takeWhole : List Char → Nat → Nat × Nat
  | [], n => (n, 0)
  | c :: cs, n =>
    let n' := n * 10 + digit c
    if n' < 0x10000000000000000 then takeWhole cs n' else (n, cs.length + 1)

/-- The number continued with digits after the point, as long as they fit, and how
many did. -/
def takeFraction : List Char → Nat → Nat × Nat
  | [], n => (n, 0)
  | c :: cs, n =>
    let n' := n * 10 + digit c
    if n' < 0x10000000000000000 then
      let (r, k) := takeFraction cs n'
      (r, k + 1)
    else (n, 0)

/-- A power of ten as a double. -/
def power (n : Nat) : Float := Float.ofScientific 1 false n

/-- Division by `10 ^ n` in steps of at most `10 ^ 308`. -/
def divide (x : Float) (n : Nat) : Float :=
  if n ≤ 308 then x / power n
  else if x == 0 then x
  else divide (x / power 308) (n - 308)
termination_by n

/-- The double `n · 10 ^ e`, unless it is too large. -/
def scale (n : Nat) (e : Int) : Option Float :=
  let x := (UInt64.ofNat n).toFloat
  match e with
  | .negSucc k => some (divide x (k + 1))
  | .ofNat k =>
    if k ≤ 308 then
      let y := x * power k
      if y.isInf then none else some y
    else if n = 0 then some x else none

/-- The double that a literal stands for, unless it is too large. -/
def magnitude (l : Literal) : Option Float :=
  let (n, left) := takeWhole l.whole 0
  let (n, used) := takeFraction l.fraction n
  let start : Int := (left : Int) - used
  match l.exponent with
  | none => scale n start
  | some (negative, digits) =>
    let e := Nat.ofDigitChars 10 digits 0
    if e < 0x80000000 then scale n (if negative then start - e else start + e)
    else if n = 0 ∨ negative then some 0 else none

/-- The value of a literal; `none` if it is too large for a double. -/
def value? (l : Literal) : Option Number :=
  let n := Nat.ofDigitChars 10 l.whole 0
  let plain := l.fraction.isEmpty && l.exponent.isNone
  if plain && !l.negative && n < 0x10000000000000000 then some (.integer n)
  else if plain && l.negative && 0 < n && n ≤ 0x8000000000000000 then some (.integer (-n))
  else l.magnitude.map fun x => .float (if l.negative then -x else x)

end Literal

end RouteMap.Json
