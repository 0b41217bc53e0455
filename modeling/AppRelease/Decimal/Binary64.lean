/-!
# Numbers with 53 significant bits

Program: a magnitude is `significand * 2 ^ exponent` with a significand below 2^53 and an exponent
between -1074 and 971. `ofRatio?` rounds an exact ratio to the nearest one, a tie to the even
significand; a ratio past the largest magnitude has none. Products and quotients are exact ratios
rounded once.
-/

namespace AppRelease.Decimal

/-- A magnitude of double precision: `significand * 2 ^ exponent`. -/
structure Binary64 where
  significand : Nat
  exponent : Int
  deriving DecidableEq, Repr

namespace Binary64

/-- The least exponent. -/
def leastExponent : Int := -1074

/-- The greatest exponent. -/
def greatestExponent : Int := 971

/-- The number zero. -/
def zero : Binary64 := ⟨0, leastExponent⟩

/-- Whether the magnitude is zero. -/
def isZero (x : Binary64) : Bool := x.significand == 0

/-- A ratio in units of `2 ^ q`, as a numerator and a denominator. -/
def inUnits (num den : Nat) (q : Int) : Nat × Nat :=
  if q < 0 then (num * Nat.pow 2 q.natAbs, den) else (num, den * Nat.pow 2 q.natAbs)

/-- The nearest whole number to a ratio, a tie to the even one. -/
def roundToEven (num den : Nat) : Nat :=
  let whole := num / den
  let twice := 2 * (num % den)
  if twice < den then whole
  else if den < twice then whole + 1
  else if whole % 2 = 0 then whole else whole + 1

/-- The exponent of the magnitude nearest to a positive ratio: it gives the ratio 53 bits before the
point, but is never below the least one. -/
def exponentOf (num den : Nat) : Int :=
  let guess : Int := (Nat.log2 num : Int) - Nat.log2 den - 53
  let q := max guess leastExponent
  let (n, d) := inUnits num den q
  if n / d < Nat.pow 2 53 then q else q + 1

/-- The magnitude nearest to a ratio; none when that is past the largest one. -/
def ofRatio? (num den : Nat) : Option Binary64 :=
  if num = 0 then some zero
  else
    let q := exponentOf num den
    let (n, d) := inUnits num den q
    let m := roundToEven n d
    let (m, q) := if m = Nat.pow 2 53 then (Nat.pow 2 52, q + 1) else (m, q)
    if greatestExponent < q then none else some ⟨m, q⟩

/-- The magnitude nearest to a whole number. -/
def ofNat? (n : Nat) : Option Binary64 := ofRatio? n 1

/-- The exact value as a numerator and a denominator. -/
def ratio (x : Binary64) : Nat × Nat :=
  if x.exponent < 0 then (x.significand, Nat.pow 2 x.exponent.natAbs)
  else (x.significand * Nat.pow 2 x.exponent.natAbs, 1)

/-- The product, rounded once. -/
def mul? (x y : Binary64) : Option Binary64 :=
  ofRatio? (x.ratio.1 * y.ratio.1) (x.ratio.2 * y.ratio.2)

/-- The quotient by a magnitude that is not zero, rounded once. -/
def div? (x y : Binary64) : Option Binary64 :=
  ofRatio? (x.ratio.1 * y.ratio.2) (x.ratio.2 * y.ratio.1)

/-- The magnitude nearest to `digits * 10 ^ exponent`. Far outside the range the answer does not
depend on the digits, so no large power is formed. -/
def ofDecimal? (digits : Nat) (exponent : Int) : Option Binary64 :=
  if digits = 0 then some zero
  else
    let places : Int := (Nat.toDigits 10 digits).length + exponent
    if 400 < places then none
    else if places < -400 then some zero
    else if exponent < 0 then ofRatio? digits (Nat.pow 10 exponent.natAbs)
    else ofRatio? (digits * Nat.pow 10 exponent.natAbs) 1

end Binary64

end AppRelease.Decimal
