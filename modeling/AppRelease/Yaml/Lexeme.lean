import AppRelease.Json.Literal
import AppRelease.Text.Utf8
import AppRelease.Yaml.Character
import AppRelease.Yaml.Fault

/-!
# The texts inside a YAML document

Program: readers of the parts of a document that hold text: bare, quoted and block scalars, the
names of anchors and the addresses of tags. Each takes what is left of the text and gives the value
and what is left after it.

Crux: line ends inside a scalar are folded. One line end is a space, more are the line ends after
the first. The readers go through the text one character at a time and keep the gap they are in, a
`Gap`, until they see what follows it.
-/

namespace AppRelease.Yaml

/-- What is left of a text, and the place of its first character. -/
structure Cursor where
  rest : List Char
  mark : Mark
  deriving DecidableEq, Repr

/-- Whether a carriage return belongs to the line feed after it. -/
def isHalfBreak (c : Char) (rest : List Char) : Bool := c = '\r' && rest.head? == some '\n'

/-- The place after the first half of a line end. -/
def Mark.half (m : Mark) : Mark := ⟨m.index + 1, m.line, m.column⟩

/-! ## Small steps -/

/-- Skips blanks. -/
def skipBlanks : List Char → Mark → Cursor
  | [], m => ⟨[], m⟩
  | c :: rest, m => if isBlank c then skipBlanks rest m.step else ⟨c :: rest, m⟩

/-- Skips what is before the end of the line. -/
def skipLine : List Char → Mark → Cursor
  | [], m => ⟨[], m⟩
  | c :: rest, m => if isBreak c then ⟨c :: rest, m⟩ else skipLine rest m.step

/-- Skips one line end. -/
def skipBreak : List Char → Mark → Cursor
  | [], m => ⟨[], m⟩
  | c :: rest, m =>
    if isHalfBreak c rest then ⟨rest.drop 1, m.half.newLine⟩
    else if isBreak c then ⟨rest, m.newLine⟩
    else ⟨c :: rest, m⟩

/-- Skips blanks, a comment and the line end after it. -/
def skipRestOfLine (context : Context) (start : Mark) (cursor : Cursor) : Except Fault Cursor :=
  let cursor := skipBlanks cursor.rest cursor.mark
  let cursor := if cursor.rest.head? == some '#' then skipLine cursor.rest cursor.mark else cursor
  if cursor.rest.isEmpty ||
    cursor.rest.head?.any isBreak then .ok (skipBreak cursor.rest cursor.mark)
  else .error (.found .lineEndMissing cursor.mark (some (context, start)))

/-- The characters of a name at the start of a text, and what is left. -/
def takeName : List Char → Mark → List Char × Cursor
  | [], m => ([], ⟨[], m⟩)
  | c :: rest, m =>
    if isNameChar c then
      let (name, cursor) := takeName rest m.step
      (c :: name, cursor)
    else ([], ⟨c :: rest, m⟩)

/-! ## Gaps inside a scalar -/

/-- Blanks and line ends that were read and not yet written. `fold` is there after a line end; it is
empty when that line end was escaped. Texts are kept last character first. -/
structure Gap where
  blanks : List Char := []
  fold : Option (List Char) := none
  more : List Char := []
  deriving DecidableEq, Repr

/-- A gap with a blank after it. Blanks at the start of a line are dropped. -/
def Gap.blank (g : Gap) (c : Char) : Gap :=
  if g.fold.isSome then g else { g with blanks := c :: g.blanks }

/-- A gap with a line end after it. -/
def Gap.lineBreak (g : Gap) (c : Char) : Gap :=
  match g.fold with
  | none => { g with blanks := [], fold := some [lineEnd c] }
  | some _ => { g with more := lineEnd c :: g.more }

/-- What a gap stands for, last character first. -/
def Gap.text (g : Gap) : List Char :=
  match g.fold with
  | none => g.blanks
  | some ['\n'] => if g.more.isEmpty then [' '] else g.more
  | some first => g.more ++ first

/-! ## Bare scalars -/

/-- A bare scalar while it is read: its text, last character first, the place after it, and the gap
after that. -/
structure Bare where
  text : List Char := []
  finish : Mark
  gap : Gap := {}
  deriving DecidableEq, Repr

/-- The characters that end a bare scalar inside brackets. -/
def isFlowMark (c : Char) : Bool := c ∈ [',', '[', ']', '\x7b', '\x7d']

/-- Reads a bare scalar of which lines after the first have at least `indent` columns before
them. -/
def readBare (inFlow : Bool) (indent : Int) (start : Mark) :
    List Char → Mark → Bool → Bare → Except Fault (Bare × Cursor)
  | [], m, _, b => .ok (b, ⟨[], m⟩)
  | c :: rest, m, inGap, b =>
    if isBlank c then
      if c = '\t' && b.gap.fold.isSome && (m.column : Int) < indent then
        .error (.found .tabMisplaced m (some (.plainScalar, start)))
      else readBare inFlow indent start rest m.step true { b with gap := b.gap.blank c }
    else if isHalfBreak c rest then readBare inFlow indent start rest m.half true b
    else if isBreak c then
      readBare inFlow indent start rest m.newLine true { b with gap := b.gap.lineBreak c }
    else if inGap && ((!inFlow && (m.column : Int) < indent)
        || (m.column = 0 && isDocumentMark (c :: rest)) || c = '#') then
      .ok (b, ⟨c :: rest, m⟩)
    else if inFlow && c = ':' && rest.head?.any (fun d => isFlowMark d || d = '?') then
      .error (.found .colonMisplaced m (some (.plainScalar, start)))
    else if (c = ':' && gapFirst rest) || (inFlow && isFlowMark c) then .ok (b, ⟨c :: rest, m⟩)
    else
      readBare inFlow indent start rest m.step false
        { text := c :: (b.gap.text ++ b.text), finish := m.step, gap := {} }

/-! ## Quoted scalars -/

/-- Where the reader of a quoted scalar is: in its text, before the second of two quotes, after a
backslash, before an escaped line end, or in a code with digits to come. -/
inductive Quoting where
  | text
  | quote
  | escape (place : Mark)
  | escapedBreak
  | code (digits value : Nat) (place : Mark)
  deriving DecidableEq, Repr

/-- What a letter after a backslash stands for. -/
def escapeLetters : List (Char × Nat) := [
  ('0', 0x00), ('a', 0x07), ('b', 0x08), ('t', 0x09), ('\t', 0x09), ('n', 0x0A), ('v', 0x0B),
  ('f', 0x0C), ('r', 0x0D), ('e', 0x1B), (' ', 0x20), ('"', 0x22), ('/', 0x2F), ('\\', 0x5C),
  ('N', 0x85), ('_', 0xA0), ('L', 0x2028), ('P', 0x2029)]

/-- How many digits of a code follow a letter after a backslash. -/
def codeLetters : List (Char × Nat) := [('x', 2), ('u', 4), ('U', 8)]

/-- Reads a scalar in quotes after the first quote. The text is kept last character first. -/
def readQuoted (single : Bool) (start : Mark) :
    List Char → Mark → Quoting → Gap → List Char → Except Fault (List Char × Cursor)
  | [], m, mode, _, _ =>
    match mode with
    | .escape place => .error (.found .unknownEscape place (some (.escape, start)))
    | .code _ _ place => .error (.found .hexadecimalMissing place (some (.escape, start)))
    | _ => .error (.found .endInside m (some (.quotedScalar, start)))
  | c :: rest, m, .quote, _, text => readQuoted single start rest m.step .text {} (c :: text)
  | c :: rest, m, .escape place, _, text =>
    match escapeLetters.lookup c, codeLetters.lookup c with
    | some n, _ => readQuoted single start rest m.step .text {} (Char.ofNat n :: text)
    | none, some digits => readQuoted single start rest m.step (.code digits 0 m.step) {} text
    | none, none => .error (.found .unknownEscape place (some (.escape, start)))
  | c :: rest, m, .escapedBreak, _, text =>
    if isHalfBreak c rest then readQuoted single start rest m.half .escapedBreak {} text
    else readQuoted single start rest m.newLine .text { fold := some [] } text
  | c :: rest, m, .code digits value place, _, text =>
    match Json.hexValue? c with
    | none => .error (.found .hexadecimalMissing place (some (.escape, start)))
    | some d =>
      let value := value * 16 + d
      if 1 < digits then
        readQuoted single start rest m.step (.code (digits - 1) value place) {} text
      else if value.isValidChar then
        readQuoted single start rest m.step .text {} (Char.ofNat value :: text)
      else .error (.found .invalidCode place (some (.escape, start)))
  | c :: rest, m, .text, gap, text =>
    if isBlank c then readQuoted single start rest m.step .text (gap.blank c) text
    else if isHalfBreak c rest then readQuoted single start rest m.half .text gap text
    else if isBreak c then readQuoted single start rest m.newLine .text (gap.lineBreak c) text
    else if m.column = 0 && isDocumentMark (c :: rest) then
      .error (.found .documentMarkInside m (some (.quotedScalar, start)))
    else
      let text := gap.text ++ text
      if single && c = '\'' then
        if rest.head? == some '\'' then readQuoted single start rest m.step .quote {} text
        else .ok (text.reverse, ⟨rest, m.step⟩)
      else if !single && c = '"' then .ok (text.reverse, ⟨rest, m.step⟩)
      else if !single && c = '\\' then
        if rest.head?.any isBreak then readQuoted single start rest m.step .escapedBreak {} text
        else readQuoted single start rest m.step (.escape m) {} text
      else readQuoted single start rest m.step .text {} (c :: text)

/-! ## Block scalars -/

/-- What becomes of the line ends at the end of a block. -/
inductive Chomp where
  | strip
  | clip
  | keep
  deriving DecidableEq, Repr

/-- The sign that says what becomes of the line ends at the end of a block. -/
def chompSign? : List Char → Option Chomp
  | '+' :: _ => some .keep
  | '-' :: _ => some .strip
  | _ => none

/-- The digit that gives the depth of a block, at least one. -/
def depthDigit? (start : Mark) (cursor : Cursor) : Except Fault (Option Nat) :=
  match cursor.rest with
  | '0' :: _ => .error (.found .zeroIndentation cursor.mark (some (.blockScalar, start)))
  | c :: _ => .ok (if c.isDigit then some (c.toNat - '0'.toNat) else none)
  | [] => .ok none

/-- The head of a block after its sign, in either order: the depth of its lines, if given, and what
becomes of the line ends at its end. -/
def readBlockHead (start : Mark) (cursor : Cursor) :
    Except Fault (Option Nat × Chomp × Cursor) := do
  let next (c : Cursor) : Cursor := ⟨c.rest.drop 1, c.mark.step⟩
  match chompSign? cursor.rest with
  | some chomp =>
    let cursor := next cursor
    match ← depthDigit? start cursor with
    | some depth => return (some depth, chomp, next cursor)
    | none => return (none, chomp, cursor)
  | none =>
    match ← depthDigit? start cursor with
    | some depth =>
      let cursor := next cursor
      match chompSign? cursor.rest with
      | some chomp => return (some depth, chomp, next cursor)
      | none => return (some depth, .clip, cursor)
    | none => return (none, .clip, cursor)

/-- Skips the columns before the lines of a block and its empty lines. With no depth given all
spaces are skipped. Gives the line ends, last first, and the most columns seen. -/
def readBlockBreaks (depth : Option Nat) (start : Mark) :
    List Char → Mark → Nat → List Char → Except Fault (List Char × Nat × Cursor)
  | [], m, most, breaks => .ok (breaks, most, ⟨[], m⟩)
  | c :: rest, m, most, breaks =>
    let before := depth.all (m.column < ·)
    if before && c = ' ' then
      readBlockBreaks depth start rest m.step (max most (m.column + 1)) breaks
    else if before && c = '\t' then
      .error (.found .tabAsIndentation m (some (.blockScalar, start)))
    else if isHalfBreak c rest then readBlockBreaks depth start rest m.half most breaks
    else if isBreak c then readBlockBreaks depth start rest m.newLine most (lineEnd c :: breaks)
    else .ok (breaks, most, ⟨c :: rest, m⟩)

/-- The rest of a line, last character first, and what is left. -/
def takeLine : List Char → Mark → List Char → List Char × Cursor
  | [], m, line => (line, ⟨[], m⟩)
  | c :: rest, m, line =>
    if isBreak c then (line, ⟨c :: rest, m⟩) else takeLine rest m.step (c :: line)

/-- The line end that comes next. -/
def breakText : List Char → List Char
  | [] => []
  | c :: _ => if isBreak c then [lineEnd c] else []

/-- A block while it is read. `first` is the line end after the last line, `breaks` those of the
empty lines after that, and `indented` says whether the last line starts with a blank. Texts are
kept last character first. -/
structure Block where
  text : List Char := []
  first : List Char := []
  breaks : List Char := []
  indented : Bool := false
  deriving DecidableEq, Repr

/-- A block with the line ends before its next line. Where lines are folded, one line end between
two lines that start with no blank is a space, or nothing when empty lines follow. -/
def Block.joined (b : Block) (literal indented : Bool) : List Char :=
  if !literal && b.first = ['\n'] && !b.indented && !indented then
    b.breaks ++ ((if b.breaks.isEmpty then [' '] else []) ++ b.text)
  else b.breaks ++ (b.first ++ b.text)

/-- Reads the lines of a block that have `depth` columns before them. -/
def readBlockLines (literal : Bool) (depth : Nat) (start : Mark) :
    Nat → Cursor → Block → Except Fault (Block × Cursor)
  | 0, cursor, b => .ok (b, cursor)
  | fuel + 1, cursor, b =>
    match cursor.rest with
    | [] => .ok (b, cursor)
    | c :: _ =>
      if cursor.mark.column = depth then
        let (line, after) := takeLine cursor.rest cursor.mark []
        let next := skipBreak after.rest after.mark
        match readBlockBreaks (some depth) start next.rest next.mark 0 [] with
        | .error fault => .error fault
        | .ok (breaks, _, cursor) =>
          readBlockLines literal depth start fuel cursor
            { text := line ++ b.joined literal (isBlank c)
              first := breakText after.rest
              breaks := breaks
              indented := isBlank c }
      else .ok (b, cursor)

/-- Reads a block after its sign; `indent` is the depth of what it stands in. -/
def readBlock (literal : Bool) (indent : Int) (start : Mark) (cursor : Cursor) :
    Except Fault (List Char × Cursor) := do
  let (given, chomp, cursor) ← readBlockHead start cursor
  let cursor ← skipRestOfLine .blockScalar start cursor
  let given := given.map fun n => (max indent 0).toNat + n
  let (breaks, most, cursor) ← readBlockBreaks given start cursor.rest cursor.mark 0 []
  let depth := given.getD (max most (max (indent + 1).toNat 1))
  let (b, cursor) ← readBlockLines literal depth start (cursor.rest.length + 1) cursor
      { breaks := breaks }
  let text := match chomp with
    | .strip => b.text
    | .clip => b.first ++ b.text
    | .keep => b.breaks ++ (b.first ++ b.text)
  return (text.reverse, cursor)

/-! ## Tags -/

/-- The characters of the address of a tag. Commas and brackets only between angle brackets. -/
def isAddressChar (verbatim : Bool) (c : Char) : Bool :=
  isNameChar c || c ∈ ";/?:@&=+$.%!~*'()".toList || (verbatim && c ∈ [',', '[', ']'])

/-- How many octets a character has whose first octet this is. -/
def octetCount (octet : Nat) : Nat :=
  if octet < 0x80 then 1
  else if 0xC0 ≤ octet && octet < 0xE0 then 2
  else if 0xE0 ≤ octet && octet < 0xF0 then 3
  else if 0xF0 ≤ octet && octet < 0xF8 then 4
  else 0

/-- Reads the address of a tag. Octets are written with percent signs; `left` of them are still to
come. -/
def readAddress (verbatim : Bool) (context : Context) (start : Mark) :
    List Char → Mark → List UInt8 → Nat → List Char → Except Fault (List Char × Cursor)
  | '%' :: a :: b :: rest, m, octets, left, text =>
    match Json.hexValue? a, Json.hexValue? b with
    | some high, some low =>
      let octet := high * 16 + low
      let left := if left = 0 then octetCount octet else left
      if left = 0 then .error (.found .leadingOctet m (some (context, start)))
      else if !octets.isEmpty && (octet < 0x80 || 0xC0 ≤ octet) then
        .error (.found .trailingOctet m (some (context, start)))
      else
        let octets := octets ++ [octet.toUInt8]
        let m := m.step.step.step
        if left = 1 then
          readAddress verbatim context start rest m [] 0
            ((Text.lossy octets).toList.reverse ++ text)
        else readAddress verbatim context start rest m octets (left - 1) text
    | _, _ => .error (.found .octetMissing m (some (context, start)))
  | c :: rest, m, _, left, text =>
    if 0 < left || c = '%' then .error (.found .octetMissing m (some (context, start)))
    else if isAddressChar verbatim c then
      readAddress verbatim context start rest m.step [] 0 (c :: text)
    else .ok (text.reverse, ⟨c :: rest, m⟩)
  | [], m, _, left, text =>
    if 0 < left then .error (.found .octetMissing m (some (context, start)))
    else .ok (text.reverse, ⟨[], m⟩)

/-- Reads an exclamation mark, the name after it and, if it is there, a second exclamation mark. -/
def readHandle (context : Context) (start : Mark) (cursor : Cursor) :
    Except Fault (List Char × Cursor) :=
  match cursor.rest with
  | '!' :: rest =>
    let (name, after) := takeName rest cursor.mark.step
    match after.rest with
    | '!' :: rest => .ok ('!' :: (name ++ ['!']), ⟨rest, after.mark.step⟩)
    | _ => .ok ('!' :: name, after)
  | _ => .error (.found .exclamationMissing cursor.mark (some (context, start)))

/-- Reads a tag: a handle and what follows it. A single exclamation mark has no handle. -/
def readTag (inFlow : Bool) (cursor : Cursor) : Except Fault ((String × String) × Cursor) := do
  let start := cursor.mark
  let (tag, cursor) ←
    match cursor.rest with
    | '!' :: '<' :: rest => do
      let (address, cursor) ← readAddress true .tagAddress start rest start.step.step [] 0 []
      if address.isEmpty then throw (.found .addressMissing cursor.mark (some (.tagAddress, start)))
      match cursor.rest with
      | '>' :: rest => pure (("", String.ofList address), (⟨rest, cursor.mark.step⟩ : Cursor))
      | _ => throw (.found .angleMissing cursor.mark (some (.tag, start)))
    | _ => do
      let (handle, cursor) ← readHandle .tag start cursor
      let named := 1 < handle.length && handle.getLast? == some '!'
      let (address, cursor) ← readAddress false .tagAddress start cursor.rest cursor.mark [] 0 []
      if named then
        if address.isEmpty then
          throw (.found .addressMissing cursor.mark (some (.tagAddress, start)))
        pure ((String.ofList handle, String.ofList address), cursor)
      else
        let suffix := handle.drop 1 ++ address
        pure (if suffix.isEmpty then ("", "!") else ("!", String.ofList suffix), cursor)
  if gapFirst cursor.rest || (inFlow && cursor.rest.head? == some ',') then return (tag, cursor)
  else throw (.found .blankOrLineEndMissing cursor.mark (some (.tag, start)))

/-- Reads the name of an anchor or an alias after its sign. -/
def readAnchor (context : Context) (cursor : Cursor) : Except Fault (String × Cursor) :=
  let (name, after) := takeName (cursor.rest.drop 1) cursor.mark.step
  if !name.isEmpty && (gapFirst after.rest || after.rest.head?.any (· ∈ "?:,]\x7d%@`".toList)) then
    .ok (String.ofList name, after)
  else .error (.found .nameMissing after.mark (some (context, cursor.mark)))

/-! ## Directives -/

/-- What a line with a percent sign says. -/
inductive Directive where
  | version (major minor : Nat)
  | tag (handle lead : String)
  deriving DecidableEq, Repr

/-- Reads a part of a version number, at most nine digits. -/
def readVersionPart (start : Mark) :
    List Char → Mark → Nat → Nat → Except Fault (Nat × Cursor)
  | c :: rest, m, digits, n =>
    if c.isDigit then
      if digits = 9 then .error (.found .versionTooLong m (some (.versionDirective, start)))
      else readVersionPart start rest m.step (digits + 1) (n * 10 + (c.toNat - '0'.toNat))
    else if digits = 0 then .error (.found .versionMissing m (some (.versionDirective, start)))
    else .ok (n, ⟨c :: rest, m⟩)
  | [], m, digits, n =>
    if digits = 0 then .error (.found .versionMissing m (some (.versionDirective, start)))
    else .ok (n, ⟨[], m⟩)

/-- Reads the two parts of a version number. -/
def readVersion (start : Mark) (cursor : Cursor) : Except Fault (Directive × Cursor) := do
  let cursor := skipBlanks cursor.rest cursor.mark
  let (major, cursor) ← readVersionPart start cursor.rest cursor.mark 0 0
  match cursor.rest with
  | '.' :: rest =>
    let (minor, cursor) ← readVersionPart start rest cursor.mark.step 0 0
    return (.version major minor, cursor)
  | _ => throw (.found .versionPointMissing cursor.mark (some (.versionDirective, start)))

/-- Reads a handle and what it stands for. -/
def readTagDirective (start : Mark) (cursor : Cursor) : Except Fault (Directive × Cursor) := do
  let cursor := skipBlanks cursor.rest cursor.mark
  let (handle, cursor) ← readHandle .tagDirectiveStart start cursor
  if handle ≠ ['!'] && handle.getLast? != some '!' then
    throw (.found .exclamationMissing cursor.mark (some (.tagDirectiveHandle, start)))
  if !cursor.rest.head?.any isBlank then
    throw (.found .blankMissing cursor.mark (some (.tagDirective, start)))
  let cursor := skipBlanks cursor.rest cursor.mark
  let (lead, cursor) ← readAddress true .tagDirectiveAddress start cursor.rest cursor.mark [] 0 []
  if lead.isEmpty then
    throw (.found .addressMissing cursor.mark (some (.tagDirectiveAddress, start)))
  if gapFirst cursor.rest then return (.tag (String.ofList handle) (String.ofList lead), cursor)
  else throw (.found .blankOrLineEndMissing cursor.mark (some (.tagDirective, start)))

/-- Reads a directive to the end of its line. The second place is that after the directive
itself. -/
def readDirective (cursor : Cursor) : Except Fault (Directive × Mark × Cursor) := do
  let start := cursor.mark
  let (name, cursor) := takeName (cursor.rest.drop 1) start.step
  if name.isEmpty then throw (.found .directiveNameMissing cursor.mark (some (.directive, start)))
  if !gapFirst cursor.rest then
    throw (.found .directiveNameMalformed cursor.mark (some (.directive, start)))
  let (directive, cursor) ←
    if name = "YAML".toList then readVersion start cursor
    else if name = "TAG".toList then readTagDirective start cursor
    else throw (.found .unknownDirective cursor.mark (some (.directive, start)))
  let after ← skipRestOfLine .directive start cursor
  return (directive, cursor.mark, after)

end AppRelease.Yaml
