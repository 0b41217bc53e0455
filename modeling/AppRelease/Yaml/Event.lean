import AppRelease.Yaml.Token

/-!
# Events of a YAML text

Program: `documents` puts the tokens of a text together to nodes and lists what it meets on the way:
scalars, the starts and ends of sequences and mappings, and aliases. Each document has a list of its
own. Where a text goes wrong, the events before that place stand in the list and the fault beside
it.

Crux: the readers follow the grammar, one for each kind of collection. They add events to a state
that stays when one of them fails.
-/

namespace AppRelease.Yaml

/-- What is met in a document. An alias stands for the event that its number belongs to. -/
inductive Event where
  | alias (number : Nat)
  | scalar (tag : Option String) (text : String) (writing : Writing)
  | sequenceStart (tag : Option String)
  | sequenceEnd
  | mappingStart (tag : Option String)
  | mappingEnd
  deriving DecidableEq, Repr

/-- Why a document ends early. -/
inductive DocumentFault where
  | text (fault : Fault)
  | unknownAnchor (mark : Mark)
  deriving DecidableEq, Repr

/-- The events of one document with their places, which event each number of an alias belongs to,
and why there are no more. -/
structure Events where
  events : List (Event × Mark) := []
  anchors : List (Nat × Nat) := []
  fault : Option DocumentFault := none
  deriving DecidableEq, Repr

/-- What reading remembers: the tokens that are left and the fault after them, the events so far,
the last first, the anchors of the document with their numbers, the events of these, and the handles
of tags. -/
structure Parse where
  tokens : List Token
  fault : Option Fault
  events : List (Event × Mark) := []
  count : Nat := 0
  names : List (String × Nat) := []
  anchors : List (Nat × Nat) := []
  handles : List (String × String) := []

/-- Readers keep what they have read when they fail. -/
abbrev Reader := ExceptT DocumentFault (StateM Parse)

namespace Reader

/-- A fault of the text. -/
def fail {α : Type} (problem : Problem) (place : Mark) (reading : Option (Context × Mark)) :
    Reader α :=
  throw (.text (.found problem place reading))

/-- The next token. There is always one before the end of the text. -/
def peek : Reader Token := do
  match (← get).tokens, (← get).fault with
  | t :: _, _ => return t
  | [], some fault => throw (.text fault)
  | [], none => fail .nodeMissing {} none

/-- Passes over a token. -/
def skip : Reader Unit := modify fun p => { p with tokens := p.tokens.drop 1 }

/-- Adds an event. -/
def emit (event : Event) (mark : Mark) : Reader Unit :=
  modify fun p => { p with events := (event, mark) :: p.events, count := p.count + 1 }

/-- A scalar that is not written. -/
def emitNothing (mark : Mark) : Reader Unit := emit (.scalar none "" .bare) mark

/-- Gives the event that comes next a name. A number is the count of the names before, so that a
name used again may get the number of another. -/
def noteAnchor (name : Option String) : Reader Unit :=
  match name with
  | none => pure ()
  | some name => modify fun p =>
    let number := p.names.length
    { p with
      names := (name, number) :: p.names.filter (·.1 ≠ name)
      anchors := (number, p.count) :: p.anchors }

/-- The tag that a handle and a suffix stand for. -/
def resolveTag (start mark : Mark) (handle suffix : String) : Reader String := do
  if handle = "" then return suffix
  match (← get).handles.lookup handle with
  | some lead => return lead ++ suffix
  | none => fail .handleUnknown mark (some (.node, start))

/-- The anchor and the tag before a node, in either order, with the place of the first. -/
def properties : Reader (Option String × Option String × Mark) := do
  let first ← peek
  match first.kind with
  | .anchor name =>
    skip
    let second ← peek
    match second.kind with
    | .tag handle suffix =>
      skip
      -- what follows is looked at before the handle is
      let _ ← peek
      return (some name, some (← resolveTag first.start second.start handle suffix), first.start)
    | _ => return (some name, none, first.start)
  | .tag handle suffix =>
    skip
    let second ← peek
    match second.kind with
    | .anchor name =>
      skip
      let _ ← peek
      return (some name, some (← resolveTag first.start first.start handle suffix), first.start)
    | _ => return (none, some (← resolveTag first.start first.start handle suffix), first.start)
  | _ => return (none, none, first.start)

mutual

/-- Reads a node. Only where blocks may stand is something indented a node, and only below a key is
a sequence that is not indented further. -/
def node : Nat → (inBlock withEntries : Bool) → Reader Unit
  | 0, _, _ => fail .nodeMissing {} none
  | fuel + 1, inBlock, withEntries => do
    let first ← peek
    match first.kind with
    | .alias name =>
      skip
      match (← get).names.lookup name with
      | some number => emit (.alias number) first.start
      | none => throw (.unknownAnchor first.start)
    | _ =>
      let (anchor, tag, start) ← properties
      let t ← peek
      match t.kind with
      | .scalar text writing =>
        skip
        noteAnchor anchor
        emit (.scalar (tag.filter (· ≠ "!")) text writing) start
      | .flowSequenceStart =>
        noteAnchor anchor
        emit (.sequenceStart tag) start
        skip
        flowSequence fuel t.start true
      | .flowMappingStart =>
        noteAnchor anchor
        emit (.mappingStart tag) start
        skip
        flowMapping fuel t.start true
      | kind =>
        if withEntries && kind = .blockEntry then
          noteAnchor anchor
          emit (.sequenceStart tag) start
          entries fuel
        else if inBlock && kind = .blockSequenceStart then
          noteAnchor anchor
          emit (.sequenceStart tag) start
          skip
          blockSequence fuel t.start
        else if inBlock && kind = .blockMappingStart then
          noteAnchor anchor
          emit (.mappingStart tag) start
          skip
          blockMapping fuel t.start
        else if anchor.isSome || tag.isSome then
          noteAnchor anchor
          emit (.scalar tag "" .bare) start
        else
          fail .nodeMissing t.start (some (if inBlock then .blockNode else .flowNode, start))

/-- Reads a node in a block unless one of some tokens comes next. -/
def blockNodeUnless : Nat → List TokenKind → (withEntries : Bool) → Mark → Reader Unit
  | 0, _, _, _ => fail .nodeMissing {} none
  | fuel + 1, ends, withEntries, mark => do
    if (← peek).kind ∈ ends then emitNothing mark else node fuel true withEntries

/-- Reads the entries of an indented sequence. -/
def blockSequence : Nat → Mark → Reader Unit
  | 0, _ => fail .nodeMissing {} none
  | fuel + 1, start => do
    let t ← peek
    match t.kind with
    | .blockEntry =>
      skip
      blockNodeUnless fuel [.blockEntry, .blockEnd] false t.finish
      blockSequence fuel start
    | .blockEnd =>
      emit .sequenceEnd t.start
      skip
    | _ => fail .entryMissing t.start (some (.blockSequence, start))

/-- Reads the entries of a sequence that is not indented further than its key. -/
def entries : Nat → Reader Unit
  | 0 => fail .nodeMissing {} none
  | fuel + 1 => do
    let t ← peek
    match t.kind with
    | .blockEntry =>
      skip
      blockNodeUnless fuel [.blockEntry, .key, .value, .blockEnd] false t.finish
      entries fuel
    | _ => emit .sequenceEnd t.start

/-- Reads the keys and values of an indented mapping. -/
def blockMapping : Nat → Mark → Reader Unit
  | 0, _ => fail .nodeMissing {} none
  | fuel + 1, start => do
    let t ← peek
    match t.kind with
    | .key =>
      skip
      blockNodeUnless fuel [.key, .value, .blockEnd] true t.finish
      blockValue fuel
      blockMapping fuel start
    | .blockEnd =>
      emit .mappingEnd t.start
      skip
    | _ => fail .keyMissing t.start (some (.blockMapping, start))

/-- Reads the value of an indented mapping. -/
def blockValue : Nat → Reader Unit
  | 0 => fail .nodeMissing {} none
  | fuel + 1 => do
    let t ← peek
    match t.kind with
    | .value =>
      skip
      blockNodeUnless fuel [.key, .value, .blockEnd] true t.finish
    | _ => emitNothing t.start

/-- Reads a node inside brackets unless one of some tokens comes next. -/
def flowNodeUnless : Nat → List TokenKind → Reader Unit
  | 0, _ => fail .nodeMissing {} none
  | fuel + 1, ends => do
    let t ← peek
    if t.kind ∈ ends then emitNothing t.start else node fuel false false

/-- Reads the entries of a sequence in brackets. A key in it starts a mapping of one entry. -/
def flowSequence : Nat → Mark → (first : Bool) → Reader Unit
  | 0, _, _ => fail .nodeMissing {} none
  | fuel + 1, start, first => do
    let t ← peek
    if t.kind = .flowSequenceEnd then
      emit .sequenceEnd t.start
      skip
    else
      unless first do
        if t.kind = .flowEntry then skip
        else fail .sequenceEndMissing t.start (some (.flowSequence, start))
      let t ← peek
      match t.kind with
      | .key =>
        emit (.mappingStart none) t.start
        skip
        flowPair fuel
        flowSequence fuel start false
      | .flowSequenceEnd =>
        emit .sequenceEnd t.start
        skip
      | _ =>
        node fuel false false
        flowSequence fuel start false

/-- Reads a mapping of one entry in a sequence in brackets. -/
def flowPair : Nat → Reader Unit
  | 0 => fail .nodeMissing {} none
  | fuel + 1 => do
    let t ← peek
    if t.kind ∈ [.value, .flowEntry, .flowSequenceEnd] then
      skip
      emitNothing t.finish
    else node fuel false false
    let t ← peek
    if t.kind = .value then
      skip
      flowNodeUnless fuel [.flowEntry, .flowSequenceEnd]
    else emitNothing t.start
    emit .mappingEnd (← peek).start

/-- Reads the keys and values of a mapping in brackets. -/
def flowMapping : Nat → Mark → (first : Bool) → Reader Unit
  | 0, _, _ => fail .nodeMissing {} none
  | fuel + 1, start, first => do
    let t ← peek
    if t.kind = .flowMappingEnd then
      emit .mappingEnd t.start
      skip
    else
      unless first do
        if t.kind = .flowEntry then skip
        else fail .mappingEndMissing t.start (some (.flowMapping, start))
      let t ← peek
      match t.kind with
      | .key =>
        skip
        flowNodeUnless fuel [.value, .flowEntry, .flowMappingEnd]
        let t ← peek
        if t.kind = .value then
          skip
          flowNodeUnless fuel [.flowEntry, .flowMappingEnd]
        else emitNothing t.start
        flowMapping fuel start false
      | .flowMappingEnd =>
        emit .mappingEnd t.start
        skip
      | _ =>
        node fuel false false
        emitNothing (← peek).start
        flowMapping fuel start false

end

/-! ## Documents -/

/-- The handles that every document has. -/
def standardHandles : List (String × String) := [("!", "!"), ("!!", "tag:yaml.org,2002:")]

/-- Reads the lines with percent signs before a document. -/
def directives : Nat → (versioned : Bool) → List (String × String) → Reader (List (String × String))
  | 0, _, handles => return handles
  | fuel + 1, versioned, handles => do
    let t ← peek
    match t.kind with
    | .directive (.version major minor) =>
      if versioned then fail .versionTwice t.start none
      if major ≠ 1 || (minor ≠ 1 && minor ≠ 2) then fail .versionUnknown t.start none
      skip
      directives fuel true handles
    | .directive (.tag handle lead) =>
      if handles.any (·.1 = handle) then fail .handleTwice t.start none
      skip
      directives fuel versioned ((handle, lead) :: handles)
    | _ => return handles

/-- Passes over the marks of ends of documents. -/
def skipEnds : Nat → Reader Unit
  | 0 => pure ()
  | fuel + 1 => do
    if (← peek).kind = .documentEnd then
      skip
      skipEnds fuel

/-- Whether a token starts a document with a mark, or ends the text. -/
def isOutside : TokenKind → Bool
  | .directive _ | .documentStart | .documentEnd | .streamEnd => true
  | _ => false

/-- Reads a document; the answer is whether there was one. Only the first needs no mark of its
start. -/
def document (fuel : Nat) (first : Bool) : Reader Bool := do
  unless first do skipEnds fuel
  let t ← peek
  if t.kind = .streamEnd then return false
  let bare := first && (match t.kind with
    | .directive _ | .documentStart => false
    | _ => true)
  if bare then
    modify fun p => { p with handles := standardHandles }
    node fuel true false
  else
    let handles ← directives fuel false []
    modify fun p => { p with handles := handles ++ standardHandles }
    let t ← peek
    if t.kind ≠ .documentStart then fail .documentStartMissing t.start none
    skip
    let t ← peek
    if isOutside t.kind then emitNothing t.start else node fuel true false
  if (← peek).kind = .documentEnd then skip
  return true

end Reader

/-- Reads documents until the text ends or one fails. The first is there even if nothing is in
it. -/
def documentsFrom (fuel : Nat) : Nat → (first : Bool) → Parse → List Events
  | 0, _, _ => []
  | more + 1, first, p =>
    let p := { p with events := [], count := 0, names := [], anchors := [] }
    match (Reader.document fuel first).run p with
    | (.ok true, p) =>
      ⟨p.events.reverse, p.anchors, none⟩ :: documentsFrom fuel more false p
    | (.ok false, _) => if first then [{}] else []
    | (.error fault, p) => [⟨p.events.reverse, p.anchors, some fault⟩]

/-- The documents of a text. -/
def documents (text : List Char) : List Events :=
  let stream := tokens text
  let n := stream.tokens.length
  documentsFrom (4 * n + 8) (n + 1) true { tokens := stream.tokens, fault := stream.fault }

end AppRelease.Yaml
