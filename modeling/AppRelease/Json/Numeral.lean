import AppRelease.Json.Cursor

/-!
# Numbers in JSON

Program: `readNumber` takes a number as long as the text continues one. The digits are collected in
a significand of 64 bits. Whole digits that do not fit only raise the power of ten, digits of the
fraction that do not fit are dropped. The significand is rounded to double precision and then
multiplied or divided once by a rounded power of ten, so the result can differ from the nearest
number to the text.
-/

namespace AppRelease.Json

/-- Collects digits after the number `n` while it stays below 2^64: the number and how many were
taken. -/
def significandDigits (n taken : Nat) : List Char → Nat × Nat
  | [] => (n, taken)
  | c :: rest =>
    match Numeral.digit? c with
    | none => (n, taken)
    | some d =>
      if 10 * n + d < Nat.pow 2 64 then significandDigits (10 * n + d) (taken + 1) rest
      else (n, taken)

/-- Collects the digits of an exponent up to 2^31 - 1; nothing when it grows larger. The second part
is how many digits were taken, the one that is too much included. -/
def exponentDigits (n taken : Nat) : List Char → Option Nat × Nat
  | [] => (some n, taken)
  | c :: rest =>
    match Numeral.digit? c with
    | none => (some n, taken)
    | some d =>
      if 10 * n + d < Nat.pow 2 31 then exponentDigits (10 * n + d) (taken + 1) rest
      else (none, taken + 1)

/-- The largest power of ten that has double precision. -/
def largestPower : Nat := 308

/-- A magnitude times a power of ten. Below the smallest power the magnitude is divided by the
largest one first, as often as needed: it is zero after two such steps. -/
def scale : Nat → Decimal.Binary64 → Int → Option Decimal.Binary64
  | 0, _, _ => none
  | fuel + 1, x, exponent =>
    if exponent.natAbs ≤ largestPower then
      (Decimal.Binary64.ofDecimal? 1 exponent.natAbs).bind fun power =>
        if 0 ≤ exponent then x.mul? power else x.div? power
    else if x.isZero then some x
    else if 0 ≤ exponent then none
    else
      (Decimal.Binary64.ofDecimal? 1 largestPower).bind fun power =>
        (x.div? power).bind fun y => scale fuel y (exponent + largestPower)

/-- The number of a significand and a power of ten. -/
def realNumber (minus : Bool) (significand : Nat) (exponent : Int) (c : Cursor) :
    Except Error (Number × Cursor) :=
  match (Decimal.Binary64.ofNat? significand).bind fun x => scale 4 x exponent with
  | some magnitude => .ok (.real minus magnitude, c)
  | none => c.fail .numberOutOfRange

/-- A whole number: it keeps its digits when it fits in 64 bits with its sign. Minus zero does
not. -/
def wholeNumber (minus : Bool) (n : Nat) (c : Cursor) : Except Error (Number × Cursor) :=
  if !minus then .ok (.natural n, c)
  else if n = 0 || Nat.pow 2 63 < n then realNumber true n 0 c
  else .ok (.negative n, c)

/-- The exponent after its sign. -/
def readPower (minus : Bool) (significand : Nat) (start : Int) (raised : Bool) (c : Cursor) :
    Except Error (Number × Cursor) :=
  match c.rest with
  | [] => c.fail .endInValue
  | first :: _ =>
    if !first.isDigit then c.failAhead .invalidNumber
    else match exponentDigits 0 0 c.rest with
      | (some exponent, taken) =>
        realNumber minus significand (if raised then start + exponent else start - exponent)
          (c.skip taken)
      | (none, taken) =>
        let c := c.skip taken
        if significand ≠ 0 && raised then c.fail .numberOutOfRange
        else .ok (.real minus .zero, c.skip c.digitsAhead)

/-- The exponent, from its letter on. -/
def readExponent (minus : Bool) (significand : Nat) (start : Int) (c : Cursor) :
    Except Error (Number × Cursor) :=
  let c := c.skip 1
  match c.rest with
  | '+' :: _ => readPower minus significand start true (c.skip 1)
  | '-' :: _ => readPower minus significand start false (c.skip 1)
  | _ => readPower minus significand start true c

/-- The fraction, from its point on. -/
def readFraction (minus : Bool) (significand : Nat) (start : Int) (c : Cursor) :
    Except Error (Number × Cursor) :=
  let c := c.skip 1
  if c.digitsAhead = 0 then
    if c.rest.isEmpty then c.fail .endInValue else c.failAhead .invalidNumber
  else
    let (significand, taken) := significandDigits significand 0 c.rest
    let exponent := start - taken
    let c := c.skip c.digitsAhead
    match c.rest with
    | 'e' :: _ => readExponent minus significand exponent c
    | 'E' :: _ => readExponent minus significand exponent c
    | _ => realNumber minus significand exponent c

/-- What may follow the whole digits; `dropped` of them did not fit in the significand. -/
def readAfterWhole (minus : Bool) (significand dropped : Nat) (c : Cursor) :
    Except Error (Number × Cursor) :=
  match c.rest with
  | '.' :: _ => readFraction minus significand dropped c
  | 'e' :: _ => readExponent minus significand dropped c
  | 'E' :: _ => readExponent minus significand dropped c
  | _ =>
    if dropped = 0 then wholeNumber minus significand c
    else realNumber minus significand dropped c

/-- A number after its sign. -/
def readUnsigned (minus : Bool) (c : Cursor) : Except Error (Number × Cursor) :=
  match c.rest with
  | [] => c.fail .endInValue
  | '0' :: _ =>
    let c := c.skip 1
    if c.digitsAhead ≠ 0 then c.failAhead .invalidNumber else readAfterWhole minus 0 0 c
  | first :: _ =>
    if !first.isDigit then c.failAhead .invalidNumber
    else
      let (significand, taken) := significandDigits 0 0 c.rest
      readAfterWhole minus significand (c.digitsAhead - taken) (c.skip c.digitsAhead)

/-- A number. -/
def readNumber (c : Cursor) : Except Error (Number × Cursor) :=
  match c.rest with
  | '-' :: _ => readUnsigned true (c.skip 1)
  | _ => readUnsigned false c

end AppRelease.Json
