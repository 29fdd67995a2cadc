/-!
# Shortest decimals of doubles

A positive double is a number `m · 2 ^ q`. All reals between the midpoints to its
two neighbours round to it, the midpoints included exactly when `m` is even.
`shortest` gives the decimal with the fewest digits in that interval and, of
several, the one nearest to the double. If two are equally near, a `Tie` decides.

For 1, 2, … 17 digits the two neighbours of the double on the grid of decimals
with that many digits are tried in exact arithmetic; 17 digits always suffice.
-/

namespace RouteMap.Decimal

/-- A non-negative fraction. -/
structure Fraction where
  num : Nat
  den : Nat

namespace Fraction

/-- `num · b ^ e` over one, or over a power of `b` if `e` is negative. -/
def scaled (num b : Nat) : Int → Fraction
  | .ofNat e => ⟨num * b.pow e, 1⟩
  | .negSucc e => ⟨num, b.pow (e + 1)⟩

/-- Comparison by cross multiplication. -/
def le (x y : Fraction) : Bool := x.num * y.den ≤ y.num * x.den

/-- The distance of two fractions. -/
def distance (x y : Fraction) : Fraction :=
  let a := x.num * y.den
  let b := y.num * x.den
  ⟨(a - b) + (b - a), x.den * y.den⟩

end Fraction

/-- A double without its sign: the number `m · 2 ^ q`, where `narrow` says that the
gap below is half the gap above. -/
structure Binary where
  m : Nat
  q : Int
  narrow : Bool

/-- The magnitude of a finite double. -/
def Binary.ofFloat (x : Float) : Binary :=
  let bits := x.toBits.toNat
  -- 52 bits of fraction below 11 bits of exponent
  let fraction : Nat := bits % 0x10000000000000
  let exponent : Nat := bits / 0x10000000000000 % 0x800
  if exponent = 0 then ⟨fraction, -1074, false⟩
  else ⟨fraction + 0x10000000000000, (exponent : Int) - 1075, fraction = 0 && exponent > 1⟩

namespace Binary

/-- The double itself. -/
def value (b : Binary) : Fraction := .scaled (4 * b.m) 2 (b.q - 2)

/-- The midpoint to the next smaller double. -/
def low (b : Binary) : Fraction := .scaled (4 * b.m - if b.narrow then 1 else 2) 2 (b.q - 2)

/-- The midpoint to the next larger double. -/
def high (b : Binary) : Fraction := .scaled (4 * b.m + 2) 2 (b.q - 2)

/-- Whether a real number rounds to the double. -/
def rounds (b : Binary) (x : Fraction) : Bool :=
  if b.m % 2 = 0 then b.low.le x && x.le b.high else !(x.le b.low) && !(b.high.le x)

/-- The exponent of the leading decimal digit. No positive double is as small as
`10 ^ -400`. -/
def leading (b : Binary) : Int :=
  let v := b.value
  (Nat.toDigits 10 (v.num * Nat.pow 10 400 / v.den)).length - 401

end Binary

/-- The decimal `digits · 10 ^ exponent`. -/
structure Scaled where
  digits : Nat
  exponent : Int

/-- The value of a decimal. -/
def Scaled.value (d : Scaled) : Fraction := .scaled d.digits 10 d.exponent

/-- Which of two equally near decimals is taken. -/
inductive Tie where
  /-- The larger one. -/
  | up
  /-- The one with an even last digit. -/
  | even
deriving DecidableEq, Repr

/-- Whether a tie between a number of digits and the next one goes down. -/
def Tie.goesDown (tie : Tie) (below : Nat) : Bool :=
  match tie with
  | .up => false
  | .even => below % 2 = 0

/-- The decimal with `n` digits that rounds to the double and is nearest to it, if
one of the two neighbours on that grid rounds to it. -/
def nearestOf (tie : Tie) (b : Binary) (n : Nat) : Option Scaled :=
  let exponent := b.leading - (n : Int) + 1
  let v := b.value
  let unit := Fraction.scaled 1 10 exponent
  let below := v.num * unit.den / (v.den * unit.num)
  let x : Scaled := ⟨below, exponent⟩
  let y : Scaled := ⟨below + 1, exponent⟩
  match b.rounds x.value, b.rounds y.value with
  | true, true =>
    let dx := v.distance x.value
    let dy := v.distance y.value
    if dx.le dy && (!dy.le dx || tie.goesDown below) then some x else some y
  | true, false => some x
  | false, true => some y
  | false, false => none

/-- The shortest decimal that rounds to a positive double. -/
def shortest (tie : Tie) (b : Binary) : Scaled :=
  ((List.range 17).findSome? fun n => nearestOf tie b (n + 1)).getD ⟨0, 0⟩

end RouteMap.Decimal
