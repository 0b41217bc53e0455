import AppRelease.Text.Utf8
import AppRelease.Text.Visible

/-!
# Texts in quotes

Program: `quoted` writes a text between double quotes so that every character can be seen. Quotes
and backslashes have a backslash before them, tab, line feed, carriage return and NUL have letters
of their own, and other characters that do not show are written by their code point. `quotedBytes`
does so for bytes that need not be text, and writes those that are no characters by their values.
-/

namespace AppRelease.Text

/-- One character inside the quotes. -/
def quotedChar (c : Char) : List Char :=
  if c = '"' then ['\\', '"']
  else if c = '\\' then ['\\', '\\']
  else if c = '\t' then ['\\', 't']
  else if c = '\n' then ['\\', 'n']
  else if c = '\r' then ['\\', 'r']
  else if c = '\x00' then ['\\', '0']
  else if isVisible c then [c]
  else '\\' :: 'u' :: '\x7b' :: (Nat.toDigits 16 c.toNat ++ ['\x7d'])

/-- A text between double quotes. -/
def quoted (s : String) : String :=
  String.ofList ('"' :: (s.toList.flatMap quotedChar ++ ['"']))

/-- A byte by its value. -/
def byteCode (b : UInt8) : List Char :=
  '\\' :: 'x' :: [Nat.digitChar (b.toNat / 16), Nat.digitChar (b.toNat % 16)].map Char.toUpper

/-- Bytes inside the quotes, character by character. -/
def quotedParts : List UInt8 → List Char
  | [] => []
  | a :: rest =>
    let next := nextLossy a rest
    let part := (a :: rest).take (rest.length + 1 - next.2.length)
    (if (textOf? part).isNone then part.flatMap byteCode else quotedChar next.1) ++
      quotedParts next.2
termination_by bytes => bytes.length
decreasing_by
  have := length_nextLossy_le a rest
  simp only [List.length_cons]
  omega

/-- Bytes between double quotes. -/
def quotedBytes (bytes : List UInt8) : String :=
  String.ofList ('"' :: (quotedParts bytes ++ ['"']))

end AppRelease.Text
