/-!
# Kinds of characters in YAML
-/

namespace AppRelease.Yaml

/-- The characters that end a line. -/
def isBreak (c : Char) : Bool :=
  c = '\n' || c = '\r' || c.toNat == 0x85 || c.toNat == 0x2028 || c.toNat == 0x2029

/-- A space or a tab. -/
def isBlank (c : Char) : Bool := c = ' ' || c = '\t'

/-- A blank, a line end or NUL. -/
def isGap (c : Char) : Bool := isBlank c || isBreak c || c = '\x00'

/-- Whether a gap, or the end of the text, comes next. -/
def gapFirst : List Char → Bool
  | [] => true
  | c :: _ => isGap c

/-- What a line end stands for in a text: a line feed, but for the two separators. -/
def lineEnd (c : Char) : Char := if c.toNat == 0x2028 || c.toNat == 0x2029 then c else '\n'

/-- The characters of names: letters, digits, the hyphen and the underscore of ASCII. -/
def isNameChar (c : Char) : Bool := c.isAlphanum || c = '_' || c = '-'

/-- Whether three of a character stand before a gap. -/
def isTriple (a : Char) : List Char → Bool
  | b :: c :: d :: rest => b = a && c = a && d = a && gapFirst rest
  | _ => false

/-- Whether the mark of a start or an end of a document comes next. -/
def isDocumentMark (cs : List Char) : Bool := isTriple '-' cs || isTriple '.' cs

/-- Whether a character may stand in a document at all. -/
def isAllowed (c : Char) : Bool :=
  let n := c.toNat
  n == 0x09 || n == 0x0A || n == 0x0D || (0x20 ≤ n && n ≤ 0x7E) || n == 0x85
    || (0xA0 ≤ n && n ≤ 0xFFFD) || 0x10000 ≤ n

end AppRelease.Yaml
