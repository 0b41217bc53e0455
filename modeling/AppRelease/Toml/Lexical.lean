import AppRelease.Json.Literal
import AppRelease.Found

/-!
# Texts, numbers and dates in TOML

Program: every reader takes a list of characters and gives what it read and what is left, or nothing
when the text is not of its kind.
-/

namespace AppRelease.Toml

/-! ## Space -/

/-- A blank within a line. -/
def isBlank (c : Char) : Bool := c = ' ' || c = '\t'

/-- A character that may stand in a comment or a literal text: no controls but the tab. -/
def isPlain (c : Char) : Bool := c = '\t' || (0x20 ≤ c.toNat && c.toNat ≠ 0x7F)

/-- After the blanks. -/
def skipBlanks (cs : List Char) : List Char := cs.dropWhile isBlank

/-- After one line end. -/
def newLine? : List Char → Option (List Char)
  | '\n' :: rest => some rest
  | '\r' :: '\n' :: rest => some rest
  | _ => none

/-- After a comment, if there is one. -/
def skipComment : List Char → List Char
  | '#' :: rest => rest.dropWhile isPlain
  | cs => cs

/-- After blanks and line ends. -/
def skipLines : List Char → List Char
  | '\n' :: rest => skipLines rest
  | '\r' :: '\n' :: rest => skipLines rest
  | ' ' :: rest => skipLines rest
  | '\t' :: rest => skipLines rest
  | cs => cs

/-- After blanks, line ends and comments. A comment ends where no plain character follows, and only
a line end takes it further, so every round takes a line. -/
def skipFiller : Nat → List Char → List Char
  | 0, cs => cs
  | fuel + 1, cs =>
    match skipLines cs with
    | '#' :: rest =>
      match newLine? (rest.dropWhile isPlain) with
      | some after => skipFiller fuel after
      | none => rest.dropWhile isPlain
    | rest => rest

/-- After blanks and a comment, at the end of a line or of the document. -/
def lineEnd? (cs : List Char) : Option (List Char) :=
  match skipComment (skipBlanks cs) with
  | [] => some []
  | rest => newLine? rest

/-! ## Texts -/

/-- The character of a code that is written with some hexadecimal digits. -/
def codePoint? (digits : List Char) : Option Char := do
  let n ← digits.foldl (fun n? c => do
    let n ← n?
    let d ← Json.hexValue? c
    return n * 16 + d) (some 0)
  if n.isValidChar then some (Char.ofNat n) else none

/-- An escape of some hexadecimal digits. -/
def readCode (width : Nat) (cs : List Char) : Option (Char × List Char) :=
  if cs.length < width then none
  else (codePoint? (cs.take width)).map fun c => (c, cs.drop width)

/-- An escape after its backslash. -/
def readEscape : List Char → Option (Char × List Char)
  | 'b' :: rest => some ('\x08', rest)
  | 't' :: rest => some ('\t', rest)
  | 'n' :: rest => some ('\n', rest)
  | 'f' :: rest => some ('\x0c', rest)
  | 'r' :: rest => some ('\r', rest)
  | '"' :: rest => some ('"', rest)
  | '\\' :: rest => some ('\\', rest)
  | 'u' :: rest => readCode 4 rest
  | 'U' :: rest => readCode 8 rest
  | _ => none

/-- A text on one line, up to its closing double quote. Every round takes a character. -/
def readBasic : Nat → List Char → Option (List Char × List Char)
  | 0, _ => none
  | fuel + 1, cs =>
    match cs with
    | [] => none
    | '"' :: rest => some ([], rest)
    | '\\' :: rest => do
      let (c, rest) ← readEscape rest
      let (others, rest) ← readBasic fuel rest
      return (c :: others, rest)
    | c :: rest =>
      if isPlain c then do
        let (others, rest) ← readBasic fuel rest
        return (c :: others, rest)
      else none

/-- A literal text on one line, up to its closing quote. -/
def readLiteral (cs : List Char) : Option (List Char × List Char) :=
  let body := cs.takeWhile fun c => c ≠ '\'' && isPlain c
  match cs.dropWhile fun c => c ≠ '\'' && isPlain c with
  | '\'' :: rest => some (body, rest)
  | _ => none

/-- How many of a character come first. -/
def runLength (c : Char) (cs : List Char) : Nat := (cs.takeWhile (· = c)).length

/-- The end of a text over several lines, at some quotes: up to two belong to the text, three end
it. -/
def closing? (quote : Char) (cs : List Char) : Option (List Char × List Char) :=
  let n := runLength quote cs
  if 3 ≤ n && n ≤ 5 then some (List.replicate (n - 3) quote, cs.drop n) else none

/-- A text over several lines, up to its three closing double quotes. A backslash at the end of a
line takes away the line end and the space after it. -/
def readBasicLines : Nat → List Char → Option (List Char × List Char)
  | 0, _ => none
  | fuel + 1, cs =>
    match cs with
    | [] => none
    | '"' :: rest =>
      if runLength '"' cs < 3 then do
        let (others, rest) ← readBasicLines fuel rest
        return ('"' :: others, rest)
      else closing? '"' cs
    | '\\' :: rest =>
      match newLine? (skipBlanks rest) with
      | some after => readBasicLines fuel (skipLines after)
      | none => do
        let (c, rest) ← readEscape rest
        let (others, rest) ← readBasicLines fuel rest
        return (c :: others, rest)
    | c :: rest =>
      match newLine? cs with
      | some after => do
        let (others, rest) ← readBasicLines fuel after
        return ('\n' :: others, rest)
      | none =>
        if isPlain c then do
          let (others, rest) ← readBasicLines fuel rest
          return (c :: others, rest)
        else none

/-- A literal text over several lines, up to its three closing quotes. -/
def readLiteralLines : Nat → List Char → Option (List Char × List Char)
  | 0, _ => none
  | fuel + 1, cs =>
    match cs with
    | [] => none
    | '\'' :: rest =>
      if runLength '\'' cs < 3 then do
        let (others, rest) ← readLiteralLines fuel rest
        return ('\'' :: others, rest)
      else closing? '\'' cs
    | c :: rest =>
      match newLine? cs with
      | some after => do
        let (others, rest) ← readLiteralLines fuel after
        return ('\n' :: others, rest)
      | none =>
        if isPlain c then do
          let (others, rest) ← readLiteralLines fuel rest
          return (c :: others, rest)
        else none

/-- After the line end that may follow the opening quotes. -/
def afterOpening (cs : List Char) : List Char := (newLine? cs).getD cs

/-- Any text, from its opening quotes on. -/
def readText (cs : List Char) : Option (String × List Char) :=
  let chars := match cs with
    | '"' :: '"' :: '"' :: rest => readBasicLines (rest.length + 1) (afterOpening rest)
    | '"' :: rest => readBasic (rest.length + 1) rest
    | '\'' :: '\'' :: '\'' :: rest => readLiteralLines (rest.length + 1) (afterOpening rest)
    | '\'' :: rest => readLiteral rest
    | _ => none
  chars.map fun (chars, rest) => (String.ofList chars, rest)

/-! ## Keys -/

/-- A character of a bare key. -/
def isKeyChar (c : Char) : Bool := c.isAlphanum || c = '_' || c = '-'

/-- One part of a key: bare, or a text on one line. -/
def readKeyPart (cs : List Char) : Option (String × List Char) :=
  match cs with
  | '"' :: rest => (readBasic (rest.length + 1) rest).map fun (k, rest) => (String.ofList k, rest)
  | '\'' :: rest => (readLiteral rest).map fun (k, rest) => (String.ofList k, rest)
  | _ =>
    let part := cs.takeWhile isKeyChar
    if part.isEmpty then none else some (String.ofList part, cs.dropWhile isKeyChar)

/-- The parts of a key, with points between them and blanks around each. -/
def readKeyParts : Nat → List Char → Option (List String × List Char)
  | 0, _ => none
  | fuel + 1, cs => do
    let (part, rest) ← readKeyPart (skipBlanks cs)
    match skipBlanks rest with
    | '.' :: rest =>
      let (others, rest) ← readKeyParts fuel rest
      return (part :: others, rest)
    | rest => return ([part], rest)

/-- How deep keys, lists and inline tables go: always less than this. -/
def depthLimit : Nat := 80

/-- A key. -/
def readKey (cs : List Char) : Option (List String × List Char) := do
  let (parts, rest) ← readKeyParts (cs.length + 1) cs
  if parts.length < depthLimit then some (parts, rest) else none

/-! ## Numbers -/

/-- Digits with single underscores between them. -/
def digitRun (isDigit : Char → Bool) : List Char → Option (List Char × List Char)
  | [] => none
  | [c] => if isDigit c then some ([c], []) else none
  | c :: d :: rest =>
    if !isDigit c then none
    else if isDigit d then do
      let (others, rest) ← digitRun isDigit (d :: rest)
      return (c :: others, rest)
    else if d = '_' then do
      let (others, rest) ← digitRun isDigit rest
      return (c :: others, rest)
    else some ([c], d :: rest)

/-- The value of digits in a base. -/
def digitsValue (base : Nat) (digits : List Char) : Nat :=
  digits.foldl (fun n c => n * base + (Json.hexValue? c).getD 0) 0

/-- Whether a character is a digit in a base. -/
def isDigitIn (base : Nat) (c : Char) : Bool :=
  match Json.hexValue? c with
  | some d => d < base
  | none => false

/-- A number in a base, up to 2^63 - 1. -/
def readBased (base : Nat) (cs : List Char) : Option (Int × List Char) := do
  let (digits, rest) ← digitRun (isDigitIn base) cs
  let n := digitsValue base digits
  if n < Nat.pow 2 63 then some (n, rest) else none

/-- Decimal digits without a leading zero. -/
def readWhole : List Char → Option (List Char × List Char)
  | '0' :: rest => some (['0'], rest)
  | cs => digitRun Char.isDigit cs

/-- The digits after a point; none when there is no point. -/
def readFraction : List Char → Option (List Char × List Char)
  | '.' :: rest => digitRun Char.isDigit rest
  | cs => some ([], cs)

/-- The exponent; nothing when there is none. -/
def readExponent (cs : List Char) : Option (Option Int × List Char) :=
  let digits (minus : Bool) (cs : List Char) : Option (Option Int × List Char) := do
    let (digits, rest) ← digitRun Char.isDigit cs
    let n := digitsValue 10 digits
    return (some (if minus then -(n : Int) else n), rest)
  let signed (cs : List Char) : Option (Option Int × List Char) :=
    match cs with
    | '+' :: rest => digits false rest
    | '-' :: rest => digits true rest
    | _ => digits false cs
  match cs with
  | 'e' :: rest => signed rest
  | 'E' :: rest => signed rest
  | _ => some (none, cs)

/-- A decimal number after its sign: whole when it has neither a fraction nor an exponent. A
positive number too large for double precision is refused, a negative one is infinite. -/
def readDecimal (minus : Bool) (cs : List Char) : Option ((Int ⊕ Decimal.Real) × List Char) := do
  let (whole, rest) ← readWhole cs
  let (fraction, rest) ← readFraction rest
  let (exponent, rest) ← readExponent rest
  if fraction.isEmpty && exponent.isNone then
    let n := digitsValue 10 whole
    if n < Nat.pow 2 63 || (minus && n = Nat.pow 2 63) then
      some (.inl (if minus then -(n : Int) else n), rest)
    else none
  else
    match Decimal.Binary64.ofDecimal? (digitsValue 10 (whole ++ fraction))
      (exponent.getD 0 - fraction.length) with
    | some magnitude => some (.inr (.finite minus magnitude), rest)
    | none => if minus then some (.inr (.infinite true), rest) else none

/-- A number after its sign. -/
def readUnsigned (minus : Bool) : List Char → Option ((Int ⊕ Decimal.Real) × List Char)
  | 'i' :: 'n' :: 'f' :: rest => some (.inr (.infinite minus), rest)
  | 'n' :: 'a' :: 'n' :: rest => some (.inr .notANumber, rest)
  | cs => readDecimal minus cs

/-- A number. Only decimal numbers have a sign. -/
def readNumber (cs : List Char) : Option ((Int ⊕ Decimal.Real) × List Char) :=
  match cs with
  | '0' :: 'x' :: rest => (readBased 16 rest).map fun (n, rest) => (.inl n, rest)
  | '0' :: 'o' :: rest => (readBased 8 rest).map fun (n, rest) => (.inl n, rest)
  | '0' :: 'b' :: rest => (readBased 2 rest).map fun (n, rest) => (.inl n, rest)
  | '+' :: rest => readUnsigned false rest
  | '-' :: rest => readUnsigned true rest
  | _ => readUnsigned false cs

/-! ## Dates and times -/

/-- A number of a fixed count of digits. -/
def readFixed (width : Nat) (cs : List Char) : Option (Nat × List Char) :=
  let digits := cs.take width
  if digits.length = width && digits.all Char.isDigit then
    some (digitsValue 10 digits, cs.drop width)
  else none

/-- A number of two digits between bounds. -/
def readPair (least greatest : Nat) (cs : List Char) : Option (Nat × List Char) := do
  let (n, rest) ← readFixed 2 cs
  if least ≤ n && n ≤ greatest then some (n, rest) else none

/-- After one given character. -/
def expect (c : Char) : List Char → Option (List Char)
  | a :: rest => if a = c then some rest else none
  | [] => none

/-- The number of days in a month. -/
def daysIn (year month : Nat) : Nat :=
  if month = 2 then
    if year % 4 = 0 && (year % 100 ≠ 0 || year % 400 = 0) then 29 else 28
  else if month = 4 || month = 6 || month = 9 || month = 11 then 30
  else 31

/-- After a date. -/
def skipDate (cs : List Char) : Option (List Char) := do
  let (year, rest) ← readFixed 4 cs
  let rest ← expect '-' rest
  let (month, rest) ← readPair 1 12 rest
  let rest ← expect '-' rest
  let (_, rest) ← readPair 1 (daysIn year month) rest
  return rest

/-- After a fraction of a second, if there is one. -/
def skipSecondFraction : List Char → Option (List Char)
  | '.' :: rest =>
    let after := rest.dropWhile Char.isDigit
    if after.length < rest.length then some after else none
  | cs => some cs

/-- After a time of day. -/
def skipTime (cs : List Char) : Option (List Char) := do
  let (_, rest) ← readPair 0 23 cs
  let rest ← expect ':' rest
  let (_, rest) ← readPair 0 59 rest
  let rest ← expect ':' rest
  let (_, rest) ← readPair 0 60 rest
  skipSecondFraction rest

/-- After an offset from universal time, if there is one. -/
def skipOffset (cs : List Char) : Option (List Char) :=
  let shift (rest : List Char) : Option (List Char) := do
    let (_, rest) ← readPair 0 23 rest
    let rest ← expect ':' rest
    let (_, rest) ← readPair 0 59 rest
    return rest
  match cs with
  | 'Z' :: rest => some rest
  | 'z' :: rest => some rest
  | '+' :: rest => shift rest
  | '-' :: rest => shift rest
  | _ => some cs

/-- After the time that may follow a date. A blank before something else does not belong to the
date. -/
def skipDateTime (cs : List Char) : Option (List Char) := do
  let rest ← skipDate cs
  match rest with
  | c :: after =>
    if (c = 'T' || c = 't' || c = ' ') && (readFixed 2 after).isSome then
      (skipTime after).bind skipOffset
    else return rest
  | [] => return rest

/-- Whether a date or a time starts here, by its first mark. -/
def startsDate (cs : List Char) : Bool :=
  let after (width : Nat) (mark : Char) :=
    match readFixed width cs with
    | some (_, c :: _) => c = mark
    | _ => false
  after 4 '-' || after 2 ':'

/-- After a date, a time, or both. -/
def skipDateOrTime (cs : List Char) : Option (List Char) :=
  match readFixed 2 cs with
  | some (_, ':' :: _) => skipTime cs
  | _ => skipDateTime cs

end AppRelease.Toml
