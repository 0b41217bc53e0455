import AppRelease.Decimal.Shortest
import AppRelease.Json.Literal
import AppRelease.Numeral
import AppRelease.Text.Cut

/-!
# What a bare YAML scalar is read as

Program: a bare text may stand for nothing, a truth value (`boolean?`), a whole number of up to 128
bits in one of four bases (`whole?`), or a finite or infinite number with a point (`real?`).
`readsAsOther` tells whether a reader would take it for any of these. Digits after a leading zero
are in doubt as well.
-/

namespace AppRelease.Yaml

/-- The spellings of nothing. -/
def nulls : List String := ["null", "Null", "NULL", "~"]

/-- The spellings of truth values, with these. -/
def booleans : List (String × Bool) := [
  ("true", true), ("True", true), ("TRUE", true), ("false", false), ("False", false),
    ("FALSE", false)]

/-- Whether a text stands for nothing. -/
def isNull (cs : List Char) : Bool := nulls.any fun s => s.toList == cs

/-- A truth value. -/
def boolean? (cs : List Char) : Option Bool :=
  (booleans.find? fun entry => entry.1.toList == cs).map (·.2)

/-- A text without the sign `c` before it. -/
def dropSign (c : Char) : List Char → List Char
  | a :: rest => if a = c then rest else a :: rest
  | [] => []

/-- Whether a sign comes first. -/
def signed : List Char → Bool
  | '+' :: _ => true
  | '-' :: _ => true
  | _ => false

/-- Digits of a base as a number. -/
def digitsIn? (base : Nat) (cs : List Char) : Option Nat :=
  if cs.isEmpty then none
  else cs.foldl (fun n? c => do
    let n ← n?
    let d ← Json.hexValue? c
    if d < base then some (n * base + d) else none) (some 0)

/-- What follows the mark of a base, with the base. -/
def baseMark? : List Char → Option (Nat × List Char)
  | '0' :: 'x' :: rest => some (16, rest)
  | '0' :: 'o' :: rest => some (8, rest)
  | '0' :: 'b' :: rest => some (2, rest)
  | _ => none

/-- A number written in the base of its mark. -/
def based? (cs : List Char) : Option Nat :=
  match baseMark? cs with
  | some (base, rest) => digitsIn? base rest
  | none => none

/-- Several digits of which the first is zero, after an optional sign. -/
def zeroLed (cs : List Char) : Bool :=
  match (if signed cs then cs.drop 1 else cs) with
  | '0' :: c :: rest => (c :: rest).all Char.isDigit
  | _ => false

/-- A number without a sign that is at most `limit`. -/
def natural? (limit : Nat) (cs : List Char) : Option Nat :=
  ((based? cs).or (if zeroLed cs then none else digitsIn? 10 cs)).filter (· ≤ limit)

/-- A whole number of up to 128 bits. -/
def whole? (cs : List Char) : Option Int :=
  match cs with
  | '-' :: rest => (natural? (Nat.pow 2 127) rest).map fun n => -(n : Int)
  | _ => (natural? (Nat.pow 2 128 - 1) (dropSign '+' cs)).map fun n => (n : Int)

/-- The exponent of a number after its letter: an optional sign and digits. -/
def exponent? (cs : List Char) : Option Int :=
  match cs with
  | '-' :: rest => (digitsIn? 10 rest).map fun n => -(n : Int)
  | '+' :: rest => (digitsIn? 10 rest).map fun n => (n : Int)
  | _ => (digitsIn? 10 cs).map fun n => (n : Int)

/-- Digits with an optional point and exponent, at least one digit: the digits and the power of
ten. -/
def decimal? (cs : List Char) : Option (Nat × Int) :=
  let whole := cs.takeWhile Char.isDigit
  let rest := cs.dropWhile Char.isDigit
  let (fraction, rest) := match rest with
    | '.' :: after => (after.takeWhile Char.isDigit, after.dropWhile Char.isDigit)
    | _ => ([], rest)
  match digitsIn? 10 (whole ++ fraction) with
  | none => none
  | some digits =>
    match rest with
    | [] => some (digits, -(fraction.length : Int))
    | 'e' :: after => (exponent? after).map fun e => (digits, e - fraction.length)
    | 'E' :: after => (exponent? after).map fun e => (digits, e - fraction.length)
    | _ => none

/-- A number with a point or an exponent that double precision can hold, an infinity, or the value
that is no number. -/
def real? (cs : List Char) : Option Decimal.Real :=
  let plain := dropSign '+' cs
  if cs.head? == some '+' && signed plain then none
  else if [".inf", ".Inf", ".INF"].any (fun s => s.toList == plain) then some (.infinite false)
  else if ["-.inf", "-.Inf", "-.INF"].any (fun s => s.toList == cs) then some (.infinite true)
  else if [".nan", ".NaN", ".NAN"].any (fun s => s.toList == cs) then some .notANumber
  else do
    let (digits, exponent) ← decimal? (dropSign '-' plain)
    let magnitude ← Decimal.Binary64.ofDecimal? digits exponent
    return .finite (plain.head? == some '-') magnitude

/-- Whether a bare text would be read as something else than a text, or is in doubt. -/
def readsAsOther (cs : List Char) : Bool :=
  cs.isEmpty
    || isNull cs
    || (boolean? cs).isSome
    || zeroLed cs
    || (whole? cs).isSome
    || (real? cs).isSome

end AppRelease.Yaml
