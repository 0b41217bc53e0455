import AppRelease.Text.Utf8

/-!
# Base 64

Program: `encode` writes bytes in the standard alphabet with padding, `decode` reads exactly what
`encode` writes and otherwise says what is wrong. Crux: three bytes are four symbols of six bits; a
last group of one or two bytes leaves bits over, and these have to be zero.

The order of faults: a byte outside the alphabet that stands alone at the very end comes first, then
the symbols from left to right, then the number of symbols, then the padding, then bits left over.
-/

namespace AppRelease.Base64

/-- Why a text is not base 64. -/
inductive Fault where
  | invalidSymbol (offset : Nat) (byte : UInt8)
  | invalidLastSymbol (offset : Nat) (byte : UInt8)
  | invalidLength (length : Nat)
  | invalidPadding
  deriving DecidableEq, Repr

/-- The wording of a fault. -/
def Fault.message : Fault → String
  | .invalidSymbol offset byte => s!"Invalid symbol {byte.toNat}, offset {offset}."
  | .invalidLastSymbol offset byte => s!"Invalid last symbol {byte.toNat}, offset {offset}."
  | .invalidLength length => s!"Invalid input length: {length}"
  | .invalidPadding => "Invalid padding"

/-- The symbols in order of their values. -/
def alphabet : List Char :=
  "ABCDEFGHIJKLMNOPQRSTUVWXYZabcdefghijklmnopqrstuvwxyz0123456789+/".toList

/-- The symbol of a value below 64. -/
def symbol (value : Nat) : Char := alphabet.getD value 'A'

/-- The padding symbol. -/
def pad : UInt8 := 61

/-- The value of a symbol, given as a byte. -/
def value? (byte : UInt8) : Option Nat :=
  let n := byte.toNat
  if 65 ≤ n ∧ n ≤ 90 then some (n - 65)
  else if 97 ≤ n ∧ n ≤ 122 then some (n - 71)
  else if 48 ≤ n ∧ n ≤ 57 then some (n + 4)
  else if n = 43 then some 62
  else if n = 47 then some 63
  else none

/-! ## Writing -/

/-- The symbols of bytes, three bytes at a time. -/
def encodeChars : List UInt8 → List Char
  | [] => []
  | [a] => [symbol (a.toNat / 4), symbol (a.toNat % 4 * 16), '=', '=']
  | [a, b] =>
    [symbol (a.toNat / 4), symbol (a.toNat % 4 * 16 + b.toNat / 16), symbol (b.toNat % 16 * 4), '=']
  | a :: b :: c :: rest =>
    symbol (a.toNat / 4) :: symbol (a.toNat % 4 * 16 + b.toNat / 16)
      :: symbol (b.toNat % 16 * 4 + c.toNat / 64) :: symbol (c.toNat % 64) :: encodeChars rest

/-- Bytes written in base 64. -/
def encode (bytes : List UInt8) : String := String.ofList (encodeChars bytes)

/-! ## Reading -/

/-- The value of the symbol at an offset. -/
def readSymbol (offset : Nat) (byte : UInt8) : Except Fault Nat :=
  match value? byte with
  | some v => .ok v
  | none => .error (.invalidSymbol offset byte)

/-- The first byte of a group, from its first two values. -/
def firstByte (v w : Nat) : UInt8 := UInt8.ofNat (v * 4 + w / 16)

/-- The second byte of a group, from its second and third values. -/
def secondByte (w x : Nat) : UInt8 := UInt8.ofNat (w % 16 * 16 + x / 4)

/-- The third byte of a group, from its last two values. -/
def thirdByte (x y : Nat) : UInt8 := UInt8.ofNat (x % 4 * 64 + y)

/-- Four symbols as three bytes. -/
def readGroup (offset : Nat) (a b c d : UInt8) : Except Fault (List UInt8) := do
  let v ← readSymbol offset a
  let w ← readSymbol (offset + 1) b
  let x ← readSymbol (offset + 2) c
  let y ← readSymbol (offset + 3) d
  return [firstByte v w, secondByte w x, thirdByte x y]

/-- The symbols of the last group with their values, and how much padding follows them. Padding
stands after two symbols at least, and nothing stands after it. -/
def readLast (offset position : Nat) : List UInt8 → Except Fault (List (UInt8 × Nat) × Nat)
  | [] => .ok ([], 0)
  | byte :: rest =>
    if byte = pad then
      if position < 2 then .error (.invalidSymbol (offset + position) byte)
      else if rest.all (· == pad) then .ok ([], rest.length + 1)
      else .error (.invalidSymbol (offset + position) byte)
    else do
      let v ← readSymbol (offset + position) byte
      let (values, padding) ← readLast offset (position + 1) rest
      return ((byte, v) :: values, padding)

/-- The last group: up to four symbols, padded to four. -/
def decodeLast (offset : Nat) (group : List UInt8) : Except Fault (List UInt8) := do
  match ← readLast offset 0 group with
  | ([], _) => return []
  | ([_], _) => throw (.invalidLength (offset + 1))
  | ([(_, v), (b, w)], padding) =>
    if padding ≠ 2 then throw .invalidPadding
    else if w % 16 ≠ 0 then throw (.invalidLastSymbol (offset + 1) b)
    else return [firstByte v w]
  | ([(_, v), (_, w), (c, x)], padding) =>
    if padding ≠ 1 then throw .invalidPadding
    else if x % 4 ≠ 0 then throw (.invalidLastSymbol (offset + 2) c)
    else return [firstByte v w, secondByte w x]
  | ((_, v) :: (_, w) :: (_, x) :: (_, y) :: _, _) =>
    return [firstByte v w, secondByte w x, thirdByte x y]

/-- Groups from an offset on; the group that ends the text is the last one, full or not. -/
def decodeFrom (offset : Nat) : List UInt8 → Except Fault (List UInt8)
  | a :: b :: c :: d :: e :: rest => do
    let bytes ← readGroup offset a b c d
    let others ← decodeFrom (offset + 4) (e :: rest)
    return bytes ++ others
  | group => decodeLast offset group

/-- The byte outside the alphabet that stands alone after full groups. -/
def strayEnd? (bytes : List UInt8) : Option UInt8 :=
  if bytes.length % 4 = 1 then
    match bytes.getLast? with
    | some byte => if byte ≠ pad ∧ value? byte = none then some byte else none
    | none => none
  else none

/-- Reads the bytes of a text in base 64. -/
def decodeBytes (bytes : List UInt8) : Except Fault (List UInt8) :=
  match strayEnd? bytes with
  | some byte => .error (.invalidSymbol (bytes.length - 1) byte)
  | none => decodeFrom 0 bytes

/-- Reads a text in base 64. -/
def decode (text : String) : Except Fault (List UInt8) := decodeBytes (Text.bytesOf text)

end AppRelease.Base64
