import AppRelease.Decimal.Binary64
import AppRelease.Numeral

/-!
# The fewest digits that read back

Program: `shortest` finds the decimal with the fewest digits among those that round to a given
magnitude, and of several with that many digits the nearest; which of two equally near ones is for
the caller to say. It tries 1 to 17 digits; on each grid only the two neighbours of the value have
to be tested. Two layouts use the digits: `positional` writes no exponent, `scientific` writes one
outside 10^-5 up to 10^16. A `Real` has a sign besides, and may be infinite or no number.
-/

namespace AppRelease.Decimal

/-- Digits without the point, and where the point stands: `0.digits * 10 ^ point`. -/
structure Digits where
  digits : List Char
  point : Int
  deriving DecidableEq, Repr

/-- Which of two equally near neighbours is taken. -/
inductive Tie where
  | even
  | up
  deriving DecidableEq, Repr

/-- Compares `d * 10 ^ s` with `x * 2 ^ p`. -/
def compareScaled (d : Nat) (s : Int) (x : Nat) (p : Int) : Ordering :=
  let left :=
    d * (if 0 ≤ s then Nat.pow 10 s.natAbs else 1) * (if p < 0 then Nat.pow 2 p.natAbs else 1)
  let right :=
    x * (if 0 ≤ p then Nat.pow 2 p.natAbs else 1) * (if s < 0 then Nat.pow 10 s.natAbs else 1)
  compare left right

namespace Binary64

/-- Whether `d * 10 ^ s` rounds to the magnitude: it lies between the midpoints to both neighbours,
the midpoints included when the significand is even. -/
def readsBack (x : Binary64) (d : Nat) (s : Int) : Bool :=
  let m := x.significand
  let p := x.exponent - 2
  let below := if m = Nat.pow 2 52 && leastExponent < x.exponent then 4 * m - 1 else 4 * m - 2
  let above := 4 * m + 2
  let low := compareScaled d s below p
  let high := compareScaled d s above p
  if m % 2 = 0 then low != .lt && high != .gt else low == .gt && high == .lt

/-- The least `k` with the value below `10 ^ k`, from a first guess upwards. -/
def pointFrom (x : Binary64) : Nat → Int → Int
  | 0, k => k
  | fuel + 1, k =>
    if compareScaled 1 k x.significand x.exponent == .gt then k else pointFrom x fuel (k + 1)

/-- Where the decimal point stands: the value is below `10 ^ point` and not below a tenth of it. -/
def point (x : Binary64) : Int :=
  let bits : Int := (Nat.log2 x.significand : Int) + x.exponent
  pointFrom x 4 (Int.fdiv (bits * 30103) 100000 - 1)

/-- The whole number of steps `10 ^ s` below the value. -/
def stepsBelow (x : Binary64) (s : Int) : Nat :=
  let num := x.ratio.1 * (if s < 0 then Nat.pow 10 s.natAbs else 1)
  let den := x.ratio.2 * (if 0 ≤ s then Nat.pow 10 s.natAbs else 1)
  num / den

/-- Of the two neighbours on the grid of step `10 ^ s` the one that reads back, the nearer when both
do. -/
def onGrid? (x : Binary64) (tie : Tie) (s : Int) : Option Nat :=
  let d := x.stepsBelow s
  match x.readsBack d s, x.readsBack (d + 1) s with
  | true, false => some d
  | false, true => some (d + 1)
  | false, false => none
  | true, true =>
    match compareScaled (2 * d + 1) s (2 * x.significand) x.exponent with
    | .lt => some (d + 1)
    | .gt => some d
    | .eq => some (if tie = .even && d % 2 = 0 then d else d + 1)

/-- Tries `n` digits, then one more, up to 17. -/
def searchFrom (x : Binary64) (tie : Tie) (k : Int) : Nat → Nat → Nat × Int
  | 0, n => (x.stepsBelow (k - n), k - n)
  | fuel + 1, n =>
    match x.onGrid? tie (k - n) with
    | some d => (d, k - n)
    | none => searchFrom x tie k fuel (n + 1)

/-- The fewest digits that read back, without zeros at the end. -/
def shortest (x : Binary64) (tie : Tie) : Digits :=
  if x.isZero then ⟨['0'], 1⟩
  else
    let (d, s) := searchFrom x tie x.point 17 1
    let digits := Nat.toDigits 10 d
    let kept := (digits.reverse.dropWhile (· == '0')).reverse
    ⟨kept, s + digits.length⟩

end Binary64

namespace Digits

/-- Zeros in a row. -/
def zeros (n : Nat) : List Char := List.replicate n '0'

/-- Without an exponent, at least one digit on each side of the point. -/
def positional (x : Digits) : String :=
  let n := x.digits.length
  if x.point ≤ 0 then
    "0." ++ String.ofList (zeros x.point.natAbs ++ x.digits)
  else if n ≤ x.point.natAbs then
    String.ofList (x.digits ++ zeros (x.point.natAbs - n)) ++ ".0"
  else
    String.ofList (x.digits.take x.point.natAbs) ++ "." ++
      String.ofList (x.digits.drop x.point.natAbs)

/-- Without an exponent from 10^-5 up to 10^16, else one digit before the point and a signed
exponent. -/
def scientific (x : Digits) : String :=
  if -5 < x.point && x.point ≤ 16 then x.positional
  else
    let lead := String.ofList (x.digits.take 1)
    let rest := x.digits.drop 1
    let fraction := if rest.isEmpty then "" else "." ++ String.ofList rest
    let exponent := x.point - 1
    let sign := if exponent < 0 then "-" else "+"
    lead ++ fraction ++ "e" ++ sign ++ Numeral.decimal exponent.natAbs

end Digits

/-! ## Numbers with a sign -/

/-- A number of double precision, the infinities and the value that is no number among them. -/
inductive Real where
  | finite (minus : Bool) (magnitude : Binary64)
  | infinite (minus : Bool)
  | notANumber
  deriving DecidableEq, Repr

/-- How a number is written in a fault: without an exponent, and the larger of two equally near
decimals. -/
def Real.text : Real → String
  | .finite minus magnitude => (if minus then "-" else "") ++ (magnitude.shortest .up).positional
  | .infinite minus => if minus then "-inf" else "inf"
  | .notANumber => "NaN"

end AppRelease.Decimal
