import RouteMap.Decimal.Shortest

/-!
# Written forms of doubles

A finite double is written with the digits of its shortest decimal. Between a
least exponent and `10 ^ 16` the form is positional, with at least one digit after
the point; beyond, it is a digit, the other digits after a point if there are any,
and an exponent. A `Style` fixes what the two uses do differently.
-/

namespace RouteMap.Decimal

/-- How doubles are written. -/
structure Style where
  /-- The least exponent of the leading digit that is written positionally. -/
  least : Int
  /-- Whether a positive exponent carries a plus sign. -/
  plus : Bool
  /-- Which of two equally near shortest decimals is written. -/
  tie : Tie

/-- Flattened attribute values are positional from `0.0001` on, and of two equally near
decimals the larger one is written. -/
def plainStyle : Style := ⟨-4, false, .up⟩

/-- Numbers in JSON text are positional from `0.00001` on, positive exponents carry a
plus sign, and of two equally near decimals the even one is written. -/
def jsonStyle : Style := ⟨-5, true, .even⟩

/-- Digits with the leading one at the exponent `e`, in positional form. -/
def positional (digits : List Char) (e : Int) : List Char :=
  match e with
  | .ofNat n =>
    let whole := digits.take (n + 1) ++ List.replicate (n + 1 - digits.length) '0'
    let part := digits.drop (n + 1)
    whole ++ '.' :: (if part.isEmpty then ['0'] else part)
  | .negSucc n => ['0', '.'] ++ List.replicate n '0' ++ digits

/-- Digits with the leading one at the exponent `e`, in exponent form. -/
def exponential (style : Style) (digits : List Char) (e : Int) : List Char :=
  let part := digits.drop 1
  digits.take 1 ++ (if part.isEmpty then [] else '.' :: part) ++ ['e']
    ++ (if e < 0 then ['-'] else if style.plus then ['+'] else [])
    ++ Nat.toDigits 10 e.natAbs

/-- The digits of a decimal without trailing zeros, and the exponent of the leading one. -/
def normalized (d : Scaled) : List Char × Int :=
  let digits := Nat.toDigits 10 d.digits
  let kept := (digits.reverse.dropWhile (· == '0')).reverse
  (kept, d.exponent + digits.length - 1)

/-- The written form of a positive double. -/
def Style.magnitude (style : Style) (x : Float) : List Char :=
  let (digits, e) := normalized (shortest style.tie (.ofFloat x))
  if style.least ≤ e ∧ e < 16 then positional digits e else exponential style digits e

/-- The written form of a double. Zero keeps its sign. -/
def Style.write (style : Style) (x : Float) : List Char :=
  let negative := x.toBits.toNat ≥ 0x8000000000000000
  if x.isNaN then ['N', 'a', 'N']
  else
    (if negative then ['-'] else []) ++
      (if x.isInf then ['i', 'n', 'f']
       else if x == 0 then ['0', '.', '0']
       else style.magnitude x.abs)

end RouteMap.Decimal
