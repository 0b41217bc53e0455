import AppRelease.Yaml.Character
import AppRelease.Yaml.Reading

/-!
# Scalars in YAML

Program: `style` chooses how a text is written, `writeScalar` writes it. A text with line feeds is a
block of its lines where the format allows it; a text that would be read as something else is in
single quotes; any other text is bare where that is allowed, else in single quotes, else in double
quotes with escapes.

Crux: `Features` lists the few facts about a text that decide which styles are allowed.
-/

namespace AppRelease.Yaml

/-- How a scalar is written. -/
inductive Style where
  | bare
  | single
  | double
  | block
  deriving DecidableEq, Repr

/-! ## What decides the style -/

/-- The characters that can be written as they are. -/
def isPrintable (c : Char) : Bool :=
  let n := c.toNat
  n == 0x0A || (0x20 ≤ n && n ≤ 0x7E) || (0xA0 ≤ n && n ≤ 0xD7FF)
    || (0xE000 ≤ n && n ≤ 0xFFFD && n != 0xFEFF) || 0x10000 ≤ n

/-- Characters that mean something when they start a scalar. -/
def startsSomething : List Char := "#,[]\x7b\x7d&*!|>'\"%@`".toList

/-- Whether a bare scalar would be taken for something else by its first characters. -/
def markedStart (cs : List Char) : Bool :=
  match cs with
  | [] => false
  | c :: rest =>
    (Text.after? ['-', '-', '-'] cs).isSome || (Text.after? ['.', '.', '.'] cs).isSome
      || c ∈ startsSomething || ((c = '?' || c = ':' || c = '-') && gapFirst rest)

/-- Whether a bare scalar would end early: a colon before a gap, or a number sign after one. -/
def markedInside (afterGap : Bool) : List Char → Bool
  | [] => false
  | c :: rest =>
    (c = ':' && gapFirst rest) || (c = '#' && afterGap) || markedInside (isGap c) rest

/-- Whether a character that satisfies `q` follows one that satisfies `p`. -/
def hasPair (p q : Char → Bool) : List Char → Bool
  | a :: b :: rest => (p a && q b) || hasPair p q (b :: rest)
  | _ => false

/-- Whether the first or last character satisfies `p`. -/
def atEnds (p : Char → Bool) (cs : List Char) : Bool :=
  cs.head?.any p || cs.getLast?.any p

/-- A blank. -/
def isSpace (c : Char) : Bool := c = ' '

/-- What decides which styles are allowed. -/
structure Features where
  hasBreaks : Bool
  bareAllowed : Bool
  singleAllowed : Bool
  blockAllowed : Bool
  deriving DecidableEq, Repr

/-- The features of a text. -/
def features (cs : List Char) : Features :=
  if cs.isEmpty then ⟨false, true, true, false⟩
  else
    let hasBreaks := cs.any isBreak
    let onlyDouble := hasPair isSpace isBreak cs || cs.any (fun c => !isPrintable c)
    let spaceAfterBreak := hasPair isBreak isSpace cs
    let marked := markedStart cs || markedInside (cs.head?.any isGap) (cs.drop 1)
    { hasBreaks := hasBreaks
      bareAllowed := !(hasBreaks || onlyDouble || marked || atEnds isSpace cs)
      singleAllowed := !(spaceAfterBreak || onlyDouble)
      blockAllowed := !(onlyDouble || cs.getLast?.any isSpace) }

/-- The style of a text. A key on one line is never a block. -/
def style (asKey : Bool) (cs : List Char) : Style :=
  let t := features cs
  if asKey && t.hasBreaks then .double
  else if cs.contains '\n' then
    if t.blockAllowed && !asKey then .block else .double
  else if t.bareAllowed && !readsAsOther cs then .bare
  else if t.singleAllowed then .single
  else .double

/-! ## Writing -/

/-- Blanks in a row. -/
def blanks (n : Nat) : List Char := List.replicate n ' '

/-- Single quotes. A quote is written twice, and a line feed as an empty line; the text after a line
end is indented. -/
def writeSingle (indent : Nat) (afterBreak : Bool) : List Char → List Char
  | [] => if afterBreak then blanks indent else []
  | c :: rest =>
    if isBreak c then
      (if c = '\n' && !afterBreak then ['\n', '\n'] else [c]) ++ writeSingle indent true rest
    else
      (if afterBreak then blanks indent else []) ++ (if c = '\'' then ['\'', '\''] else [c])
        ++ writeSingle indent false rest

/-- A block of lines. Every line that is not empty is indented. -/
def writeLines (indent : Nat) (afterBreak : Bool) : List Char → List Char
  | [] => []
  | c :: rest =>
    if isBreak c then c :: writeLines indent true rest
    else (if afterBreak then blanks indent else []) ++ c :: writeLines indent false rest

/-- The head of a block: the depth of its lines when they start with a blank or a line end, and what
becomes of the line ends at its end. -/
def blockHead (cs : List Char) : List Char :=
  let hint := if cs.head?.any (fun c => isSpace c || isBreak c) then ['2'] else []
  let chomp := match cs.reverse with
    | [] => ['-']
    | last :: before =>
      if !isBreak last then ['-']
      else match before with
        | [] => ['+']
        | previous :: _ => if isBreak previous then ['+'] else []
  '|' :: (hint ++ chomp)

/-- A hexadecimal digit, a capital letter above nine. -/
def hexDigit (n : Nat) : Char := "0123456789ABCDEF".toList.getD n '0'

/-- Some hexadecimal digits of a number, the last ones. -/
def hexDigits : Nat → Nat → List Char
  | 0, _ => []
  | width + 1, n => hexDigits width (n / 16) ++ [hexDigit (n % 16)]

/-- The letters that stand for characters after a backslash. -/
def escapes : List (Nat × Char) := [
  (0x00, '0'), (0x07, 'a'), (0x08, 'b'), (0x09, 't'), (0x0A, 'n'), (0x0B, 'v'), (0x0C, 'f'),
  (0x0D, 'r'), (0x1B, 'e'), (0x22, '"'), (0x5C, '\\'), (0x85, 'N'), (0xA0, '_'), (0x2028, 'L'),
  (0x2029, 'P')]

/-- One character in double quotes. -/
def writeDoubleChar (c : Char) : List Char :=
  if isPrintable c && !isBreak c && c != '"' && c != '\\' then [c]
  else
    let n := c.toNat
    match escapes.lookup n with
    | some letter => ['\\', letter]
    | none =>
      if n ≤ 0xFF then '\\' :: 'x' :: hexDigits 2 n
      else if n ≤ 0xFFFF then '\\' :: 'u' :: hexDigits 4 n
      else '\\' :: 'U' :: hexDigits 8 n

/-- A text in a style; lines after the first are indented. -/
def writeScalar (indent : Nat) (cs : List Char) : Style → List Char
  | .bare => cs
  | .single => '\'' :: (writeSingle indent false cs ++ ['\''])
  | .double => '"' :: (cs.flatMap writeDoubleChar ++ ['"'])
  | .block => blockHead cs ++ '\n' :: writeLines indent true cs

/-- Whether a scalar already ended its last line. -/
def endsLine (cs : List Char) : Style → Bool
  | .block => cs.getLast?.any isBreak
  | _ => false

end AppRelease.Yaml
