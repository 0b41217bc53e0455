import AppRelease.Json.Value

/-!
# Reading with a position

Program: a cursor is what is left of a text and the place it starts at. A fault that is about the
next character is placed one byte after the cursor, a fault about what was just taken at the cursor.
-/

namespace AppRelease.Json

/-- The place after a character. -/
def Position.after (p : Position) (c : Char) : Position :=
  if c = '\n' then ⟨p.line + 1, 0⟩ else ⟨p.line, p.column + c.utf8Size⟩

/-- The place some bytes further on; a character may be cut. -/
def Position.afterBytes (p : Position) : Nat → List Char → Position
  | _, [] => p
  | n, c :: rest =>
    if n = 0 then p
    else if n < c.utf8Size then ⟨p.line, p.column + n⟩
    else (p.after c).afterBytes (n - c.utf8Size) rest

/-- What is left of a text, and where. -/
structure Cursor where
  rest : List Char
  position : Position
  deriving DecidableEq, Repr

namespace Cursor

/-- The start of a text. -/
def start (text : List Char) : Cursor := ⟨text, ⟨1, 0⟩⟩

/-- The place one byte further on, or the end of the text. -/
def ahead (c : Cursor) : Position := c.position.afterBytes 1 c.rest

/-- A fault about what was just taken. -/
def fail {α : Type} (c : Cursor) (fault : Fault) : Except Error α := .error ⟨fault, c.position⟩

/-- A fault about what comes next. -/
def failAhead {α : Type} (c : Cursor) (fault : Fault) : Except Error α := .error ⟨fault, c.ahead⟩

/-- After some characters. -/
def skip (c : Cursor) : Nat → Cursor
  | 0 => c
  | n + 1 =>
    match c with
    | ⟨[], p⟩ => ⟨[], p⟩
    | ⟨a :: rest, p⟩ => skip ⟨rest, p.after a⟩ n

/-- At the end of the text. -/
def finish (c : Cursor) : Cursor := c.skip c.rest.length

/-- The four characters that may stand between any two parts of a document. -/
def isSpace (c : Char) : Bool := c = ' ' || c = '\t' || c = '\n' || c = '\r'

/-- After the space at the cursor. -/
def skipSpace (c : Cursor) : Cursor := c.skip (c.rest.takeWhile isSpace).length

/-- How many digits come next. -/
def digitsAhead (c : Cursor) : Nat := (c.rest.takeWhile Char.isDigit).length

end Cursor

end AppRelease.Json
