import AppRelease.Json.Cursor

/-!
# Texts in JSON

Program: `readText` reads a text between quotes, `writeText` writes one. Writing escapes the quote,
the backslash and the controls; reading takes any escape of the format, and a pair of surrogates as
one character.
-/

namespace AppRelease.Json

/-! ## Writing -/

/-- A hexadecimal digit. -/
def hexDigit (n : Nat) : Char := "0123456789abcdef".toList.getD n '0'

/-- One character inside the quotes. -/
def writeChar (c : Char) : List Char :=
  if c = '"' then ['\\', '"']
  else if c = '\\' then ['\\', '\\']
  else if c = '\x08' then ['\\', 'b']
  else if c = '\t' then ['\\', 't']
  else if c = '\n' then ['\\', 'n']
  else if c = '\x0c' then ['\\', 'f']
  else if c = '\r' then ['\\', 'r']
  else if c.toNat < 0x20 then
    ['\\', 'u', '0', '0', hexDigit (c.toNat / 16), hexDigit (c.toNat % 16)]
  else [c]

/-- A text between quotes. -/
def writeText (s : String) : String :=
  String.ofList ('"' :: (s.toList.flatMap writeChar ++ ['"']))

/-! ## Reading -/

/-- The value of a hexadecimal digit. -/
def hexValue? (c : Char) : Option Nat :=
  if '0' ≤ c ∧ c ≤ '9' then some (c.toNat - '0'.toNat)
  else if 'a' ≤ c ∧ c ≤ 'f' then some (c.toNat - 'a'.toNat + 10)
  else if 'A' ≤ c ∧ c ≤ 'F' then some (c.toNat - 'A'.toNat + 10)
  else none

/-- The number that four hexadecimal digits stand for. -/
def hexQuad? : List Char → Option Nat
  | a :: b :: c :: d :: _ => do
    let w ← hexValue? a
    let x ← hexValue? b
    let y ← hexValue? c
    let z ← hexValue? d
    return ((w * 16 + x) * 16 + y) * 16 + z
  | _ => none

/-- Reads four bytes as a hexadecimal number. -/
def readHexQuad (c : Cursor) : Except Error (Nat × Cursor) :=
  if ((c.rest.take 4).map Char.utf8Size).foldr (· + ·) 0 < 4 then c.finish.fail .endInText
  else match hexQuad? c.rest with
    | some n => .ok (n, c.skip 4)
    | none => .error ⟨.invalidEscape, c.position.afterBytes 4 c.rest⟩

/-- The first half of a pair of surrogates. -/
def isHighSurrogate (n : Nat) : Bool := 0xD800 ≤ n && n ≤ 0xDBFF

/-- The second half of a pair of surrogates. -/
def isLowSurrogate (n : Nat) : Bool := 0xDC00 ≤ n && n ≤ 0xDFFF

/-- Passes one character that has to come next inside a pair of surrogates. -/
def expectInPair (expected : Char) (c : Cursor) : Except Error Cursor :=
  match c.rest with
  | [] => c.fail .endInText
  | a :: _ => if a = expected then .ok (c.skip 1) else c.failAhead .unfinishedSurrogate

/-- An escape by code, after its letter. -/
def readCode (c : Cursor) : Except Error (Char × Cursor) := do
  let (high, c) ← readHexQuad c
  if isLowSurrogate high then c.fail .loneSurrogate
  else if isHighSurrogate high then
    let c ← expectInPair '\\' c
    let c ← expectInPair 'u' c
    let (low, c) ← readHexQuad c
    if isLowSurrogate low then
      return (Char.ofNat (0x10000 + (high - 0xD800) * 0x400 + (low - 0xDC00)), c)
    else c.fail .loneSurrogate
  else return (Char.ofNat high, c)

/-- An escape, after its backslash. -/
def readEscape (c : Cursor) : Except Error (Char × Cursor) :=
  match c.rest with
  | [] => c.fail .endInText
  | '"' :: _ => .ok ('"', c.skip 1)
  | '\\' :: _ => .ok ('\\', c.skip 1)
  | '/' :: _ => .ok ('/', c.skip 1)
  | 'b' :: _ => .ok ('\x08', c.skip 1)
  | 'f' :: _ => .ok ('\x0c', c.skip 1)
  | 'n' :: _ => .ok ('\n', c.skip 1)
  | 'r' :: _ => .ok ('\r', c.skip 1)
  | 't' :: _ => .ok ('\t', c.skip 1)
  | 'u' :: _ => readCode (c.skip 1)
  | _ => c.failAhead .invalidEscape

/-- The characters up to the closing quote. Every step takes a character, so the length of the text
bounds the number of steps. -/
def readChars : Nat → Cursor → Except Error (List Char × Cursor)
  | 0, c => c.fail .endInText
  | fuel + 1, c =>
    match c.rest with
    | [] => c.fail .endInText
    | '"' :: _ => .ok ([], c.skip 1)
    | '\\' :: _ => do
      let (a, c) ← readEscape (c.skip 1)
      let (others, c) ← readChars fuel c
      return (a :: others, c)
    | a :: _ =>
      if a.toNat < 0x20 then (c.skip 1).fail .controlCharacter
      else do
        let (others, c) ← readChars fuel (c.skip 1)
        return (a :: others, c)

/-- A text, with the cursor at its opening quote. -/
def readText (c : Cursor) : Except Error (String × Cursor) := do
  let c := c.skip 1
  let (chars, c) ← readChars (c.rest.length + 1) c
  return (String.ofList chars, c)

end AppRelease.Json
