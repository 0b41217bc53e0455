import AppRelease.Yaml.Lexeme

/-!
# Tokens of a YAML text

Program: `tokens` cuts a text into tokens. Besides the signs and scalars that are written, there are
tokens for the start and the end of what is indented. A colon shows only afterwards that what stands
before it is a key; the tokens for that are put in where the key starts. Where the text cannot be
cut any further, the fault stands after the tokens that are certain by then.

Crux: `Scan` is all that cutting remembers. `Scan.next` cuts one token off, and the loop ends
because the text gets shorter.
-/

namespace AppRelease.Yaml

/-- How a scalar is written. -/
inductive Writing where
  | bare
  | quoted
  | block
  deriving DecidableEq, Repr

/-- What a token is. -/
inductive TokenKind where
  | streamEnd
  | directive (d : Directive)
  | documentStart
  | documentEnd
  | blockSequenceStart
  | blockMappingStart
  | blockEnd
  | flowSequenceStart
  | flowSequenceEnd
  | flowMappingStart
  | flowMappingEnd
  | blockEntry
  | flowEntry
  | key
  | value
  | alias (name : String)
  | anchor (name : String)
  | tag (handle suffix : String)
  | scalar (text : String) (writing : Writing)
  deriving DecidableEq, Repr

/-- A token with the places before and after it. -/
structure Token where
  kind : TokenKind
  start : Mark
  finish : Mark
  deriving DecidableEq, Repr

/-- What may turn out to be a key: the number of its first token, its place, and whether it has to
be one. -/
structure Candidate where
  number : Nat
  mark : Mark
  required : Bool
  deriving DecidableEq, Repr

/-- A key is on one line and has at most 1024 characters. -/
def Candidate.isStale (k : Candidate) (m : Mark) : Bool :=
  k.mark.line < m.line || k.mark.index + 1024 < m.index

/-- What cutting remembers: what is left, how many brackets are open, the columns of what is
indented, the innermost first, a possible key on each level, whether one may start here, and the
tokens, the last first. -/
structure Scan where
  rest : List Char
  mark : Mark := {}
  flow : Nat := 0
  indent : Int := -1
  outer : List Int := []
  candidates : List (Option Candidate) := [none]
  keyAllowed : Bool := true
  tokens : List Token := []
  count : Nat := 0
  ended : Bool := false
  deriving DecidableEq, Repr

namespace Scan

/-- What is left as a cursor. -/
def cursor (s : Scan) : Cursor := ⟨s.rest, s.mark⟩

/-- Goes on from a cursor. -/
def goOn (s : Scan) (c : Cursor) : Scan := { s with rest := c.rest, mark := c.mark }

/-- Skips some characters of one line. -/
def skip : Nat → Scan → Scan
  | 0, s => s
  | n + 1, s => skip n { s with rest := s.rest.drop 1, mark := s.mark.step }

/-- Puts a token last. -/
def emit (s : Scan) (kind : TokenKind) (start finish : Mark) : Scan :=
  { s with tokens := ⟨kind, start, finish⟩ :: s.tokens, count := s.count + 1 }

/-- Puts a token at a number. -/
def insert (s : Scan) (number : Nat) (kind : TokenKind) (mark : Mark) : Scan :=
  let later := s.count - number
  { s with
    tokens := s.tokens.take later ++ ⟨kind, mark, mark⟩ :: s.tokens.drop later
    count := s.count + 1 }

/-- A fault at this place. -/
def fail {α : Type} (s : Scan) (problem : Problem) (reading : Option (Context × Mark)) :
    Except Fault α :=
  .error (.found problem s.mark reading)

/-! ## Possible keys -/

/-- Forgets the keys that are no longer possible. One that had to be a key is a fault. -/
def forgetStale (s : Scan) : Except Fault Scan :=
  let stale (k? : Option Candidate) : Bool := k?.any (·.isStale s.mark)
  match s.candidates.reverse.find? (fun k? => stale k? && k?.any (·.required)) with
  | some (some k) => s.fail .valueMissing (some (.simpleKey, k.mark))
  | _ => .ok { s with candidates := s.candidates.map fun k? => if stale k? then none else k? }

/-- Forgets the key that is possible on this level. -/
def forget (s : Scan) : Except Fault Scan :=
  match s.candidates with
  | some k :: rest =>
    if k.required then s.fail .valueMissing (some (.simpleKey, k.mark))
    else .ok { s with candidates := none :: rest }
  | _ => .ok s

/-- Notes that a key may start here. It has to be one where the column is that of the keys
before. -/
def note (s : Scan) : Except Fault Scan :=
  if s.keyAllowed then do
    let s ← s.forget
    let k : Candidate := ⟨s.count, s.mark, s.flow = 0 && s.indent = s.mark.column⟩
    return { s with candidates := some k :: s.candidates.drop 1 }
  else .ok s

/-! ## Indentation -/

/-- Enters what is indented up to a column, with a token in front. Inside brackets columns do not
matter. -/
def enter (s : Scan) (column : Nat) (put : Scan → Scan) : Scan :=
  if 0 < s.flow || (column : Int) ≤ s.indent then s
  else put { s with indent := column, outer := s.indent :: s.outer }

/-- Leaves what is indented further than a column. -/
def leaveFrom (column : Int) : List Int → Scan → Scan
  | [], s => s
  | indent :: rest, s =>
    if column < s.indent then
      leaveFrom column rest { s.emit .blockEnd s.mark s.mark with indent := indent, outer := rest }
    else s

/-- Leaves what is indented further than a column. Inside brackets columns do not matter. -/
def leave (s : Scan) (column : Int) : Scan :=
  if 0 < s.flow then s else leaveFrom column s.outer s

/-! ## Gaps between tokens -/

/-- Skips blanks, comments and line ends. Outside brackets a key may start on a new line, and a tab
may not stand where a key may start. -/
def skipGap (inFlow : Bool) : List Char → Mark → Bool → Bool → Cursor × Bool
  | [], m, _, allowed => (⟨[], m⟩, allowed)
  | c :: rest, m, comment, allowed =>
    if isHalfBreak c rest then skipGap inFlow rest m.half comment allowed
    else if isBreak c then skipGap inFlow rest m.newLine false (allowed || !inFlow)
    else if comment then skipGap inFlow rest m.step true allowed
    else if c = '#' then skipGap inFlow rest m.step true allowed
    else if c = ' ' || (c = '\t' && (inFlow || !allowed)) || (c = '\uFEFF' && m.column = 0) then
      skipGap inFlow rest m.step false allowed
    else (⟨c :: rest, m⟩, allowed)

/-! ## One token -/

/-- A sign of some characters. -/
def sign (s : Scan) (length : Nat) (kind : TokenKind) : Scan :=
  let after := s.skip length
  after.emit kind s.mark after.mark

/-- The end of the text, on a line of its own. -/
def streamEnd (s : Scan) : Except Fault Scan := do
  let mark := if s.mark.column = 0 then s.mark else ⟨s.mark.index, s.mark.line + 1, 0⟩
  let s ← (({ s with mark := mark } : Scan).leave (-1)).forget
  return { s.emit .streamEnd s.mark s.mark with keyAllowed := false, ended := true }

/-- A line with a percent sign. -/
def directive (s : Scan) : Except Fault Scan := do
  let s ← (s.leave (-1)).forget
  let (d, finish, after) ← readDirective s.cursor
  return { (s.goOn after).emit (.directive d) s.mark finish with keyAllowed := false }

/-- The mark of the start or the end of a document. -/
def documentMark (s : Scan) (kind : TokenKind) : Except Fault Scan := do
  let s ← (s.leave (-1)).forget
  return { s.sign 3 kind with keyAllowed := false }

/-- An opening bracket. -/
def openBracket (s : Scan) (kind : TokenKind) : Except Fault Scan := do
  let s ← s.note
  return ({ s with candidates := none :: s.candidates, flow := s.flow + 1, keyAllowed := true } :
    Scan).sign 1 kind

/-- A closing bracket. -/
def closeBracket (s : Scan) (kind : TokenKind) : Except Fault Scan := do
  let s ← s.forget
  let s := if s.flow = 0 then s
    else { s with candidates := s.candidates.drop 1, flow := s.flow - 1 }
  return ({ s with keyAllowed := false } : Scan).sign 1 kind

/-- A comma. -/
def flowEntry (s : Scan) : Except Fault Scan := do
  let s ← s.forget
  return ({ s with keyAllowed := true } : Scan).sign 1 .flowEntry

/-- The hyphen of an entry. -/
def blockEntry (s : Scan) : Except Fault Scan := do
  if s.flow = 0 && !s.keyAllowed then s.fail .entryMisplaced none
  let s ← (s.enter s.mark.column (·.emit .blockSequenceStart s.mark s.mark)).forget
  return ({ s with keyAllowed := true } : Scan).sign 1 .blockEntry

/-- The question mark before a key. -/
def key (s : Scan) : Except Fault Scan := do
  if s.flow = 0 && !s.keyAllowed then s.fail .keyMisplaced none
  let s ← (s.enter s.mark.column (·.emit .blockMappingStart s.mark s.mark)).forget
  return ({ s with keyAllowed := s.flow = 0 } : Scan).sign 1 .key

/-- The colon before a value. What may be a key before it is one. -/
def value (s : Scan) : Except Fault Scan := do
  match s.candidates with
  | some k :: rest =>
    let s := (s.insert k.number .key k.mark).enter k.mark.column
      (·.insert k.number .blockMappingStart k.mark)
    return ({ s with candidates := none :: rest, keyAllowed := false } : Scan).sign 1 .value
  | _ =>
    if s.flow = 0 && !s.keyAllowed then s.fail .valueMisplaced none
    let s := s.enter s.mark.column (·.emit .blockMappingStart s.mark s.mark)
    return ({ s with keyAllowed := s.flow = 0 } : Scan).sign 1 .value

/-- An anchor or an alias. -/
def anchor (s : Scan) (context : Context) (kind : String → TokenKind) : Except Fault Scan := do
  let s ← s.note
  let (name, after) ← readAnchor context s.cursor
  return { (s.goOn after).emit (kind name) s.mark after.mark with keyAllowed := false }

/-- A tag. -/
def tag (s : Scan) : Except Fault Scan := do
  let s ← s.note
  let ((handle, suffix), after) ← readTag (0 < s.flow) s.cursor
  return { (s.goOn after).emit (.tag handle suffix) s.mark after.mark with keyAllowed := false }

/-- A block scalar. -/
def block (s : Scan) (literal : Bool) : Except Fault Scan := do
  let s ← s.forget
  let (text, after) ← readBlock literal s.indent s.mark (s.skip 1).cursor
  return { (s.goOn after).emit (.scalar (String.ofList text) .block) s.mark after.mark with
    keyAllowed := true }

/-- A quoted scalar. -/
def quoted (s : Scan) (single : Bool) : Except Fault Scan := do
  let s ← s.note
  let (text, after) ← readQuoted single s.mark (s.rest.drop 1) s.mark.step .text {} []
  return { (s.goOn after).emit (.scalar (String.ofList text) .quoted) s.mark after.mark with
    keyAllowed := false }

/-- A bare scalar. A key may start after it when it ended its line. -/
def bare (s : Scan) : Except Fault Scan := do
  let s ← s.note
  let (b, after) ← readBare (0 < s.flow) (s.indent + 1) s.mark s.rest s.mark false
      { finish := s.mark }
  return { (s.goOn after).emit (.scalar (String.ofList b.text.reverse) .bare) s.mark b.finish with
    keyAllowed := b.gap.fold.isSome }

/-- Whether a bare scalar may start here. -/
def startsBare (inFlow : Bool) : List Char → Bool
  | [] => false
  | c :: rest =>
    if isGap c then false
    else if c = '-' then !rest.head?.any isBlank
    else if c = '?' || c = ':' then !inFlow && !gapFirst rest
    else c ∉ ",[]\x7b\x7d#&*!|>'\"%@`".toList

/-- Cuts one token off. -/
def fetch (s : Scan) : Except Fault Scan := do
  let (c, allowed) := skipGap (0 < s.flow) s.rest s.mark false s.keyAllowed
  let s ← ({ s.goOn c with keyAllowed := allowed } : Scan).forgetStale
  let s := s.leave s.mark.column
  let lineStart := s.mark.column = 0
  match s.rest with
  | [] => s.streamEnd
  | c :: rest =>
    if lineStart && c = '%' then s.directive
    else if lineStart && isTriple '-' s.rest then s.documentMark .documentStart
    else if lineStart && isTriple '.' s.rest then s.documentMark .documentEnd
    else if c = '[' then s.openBracket .flowSequenceStart
    else if c = '\x7b' then s.openBracket .flowMappingStart
    else if c = ']' then s.closeBracket .flowSequenceEnd
    else if c = '\x7d' then s.closeBracket .flowMappingEnd
    else if c = ',' then s.flowEntry
    else if c = '-' && gapFirst rest then s.blockEntry
    else if c = '?' && (0 < s.flow || gapFirst rest) then s.key
    else if c = ':' && (0 < s.flow || gapFirst rest) then s.value
    else if c = '*' then s.anchor .alias .alias
    else if c = '&' then s.anchor .anchor .anchor
    else if c = '!' then s.tag
    else if c = '|' && s.flow = 0 then s.block true
    else if c = '>' && s.flow = 0 then s.block false
    else if c = '\'' then s.quoted true
    else if c = '"' then s.quoted false
    else if startsBare (0 < s.flow) s.rest then s.bare
    else s.fail .noToken (some (.token, s.mark))

/-- Cuts one token off and looks which keys are still possible. -/
def next (s : Scan) : Except Fault Scan := do
  let s ← s.fetch
  s.forgetStale

/-- The tokens that no later colon can put anything before. -/
def certain (s : Scan) : List Token :=
  let number := s.candidates.foldl (fun n k? => match k? with
    | some k => min n k.number
    | none => n) s.count
  s.tokens.reverse.take number

end Scan

/-- Tokens, and the fault after them if the text could not be cut to its end. -/
structure TokenStream where
  tokens : List Token
  fault : Option Fault
  deriving DecidableEq, Repr

/-- Cuts tokens off until the text ends. -/
def cutFrom : Nat → Scan → TokenStream
  | 0, s => ⟨s.tokens.reverse, none⟩
  | fuel + 1, s =>
    if s.ended then ⟨s.tokens.reverse, none⟩
    else match s.next with
      | .ok s => cutFrom fuel s
      | .error fault => ⟨s.certain, some fault⟩

/-- The place in bytes of the first character that may not stand in a document. -/
def controlOffset? (offset : Nat) : List Char → Option Nat
  | [] => none
  | c :: rest => if isAllowed c then controlOffset? (offset + c.utf8Size) rest else some offset

/-- The tokens of a text. A byte order mark before it is no part of it. -/
def tokens (text : List Char) : TokenStream :=
  match controlOffset? 0 text with
  | some offset => ⟨[], some (.controlCharacter offset)⟩
  | none =>
    let rest := match text with
      | '\uFEFF' :: rest => rest
      | _ => text
    cutFrom (rest.length + 2) { rest := rest }

end AppRelease.Yaml
