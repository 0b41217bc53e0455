import AppRelease.Found
import AppRelease.Yaml.Event
import AppRelease.Yaml.Reading

/-!
# YAML values

Data: a value as a document states it. A local tag stands around the value that it belongs to.

Program: `Events.value` puts the events of a document together. A bare scalar is read by
`bareValue`, a quoted one is a text. An alias is read again from the event that it stands for. Keys
are not repeated.

Crux: collections may be nested 128 deep, so the reader of a node is given the reader of the nodes
inside it, and there is none at the last depth. Aliases cannot go round forever for the same reason,
and how often they are followed is counted besides.
-/

namespace AppRelease.Yaml

/-- A YAML value. -/
inductive Value where
  | nothing
  | boolean (b : Bool)
  | whole (n : Int)
  | real (x : Decimal.Real)
  | text (s : String)
  | sequence (items : List Value)
  | mapping (entries : List (Value × Value))
  | tagged (tag : String) (value : Value)
  deriving Inhabited, Repr

/-- Whether two numbers are equal: the sign of zero does not count, and what is no number equals
itself. -/
def sameReal : Decimal.Real → Decimal.Real → Bool
  | .finite m a, .finite n b => a = b && (m = n || a.significand = 0)
  | a, b => a = b

mutual

/-- Whether two values are equal. The order of entries does not count. -/
def Value.same : Value → Value → Bool
  | .nothing, .nothing => true
  | .boolean a, .boolean b => a = b
  | .whole a, .whole b => a = b
  | .real a, .real b => sameReal a b
  | .text a, .text b => a = b
  | .sequence a, .sequence b => sameItems a b
  | .mapping a, .mapping b => a.length = b.length && sameEntries a b
  | .tagged s a, .tagged t b => s = t && a.same b
  | _, _ => false

/-- Whether the items of two sequences are equal one by one. -/
def sameItems : List Value → List Value → Bool
  | [], [] => true
  | a :: as, b :: bs => a.same b && sameItems as bs
  | _, _ => false

/-- Whether every entry of a mapping is in another one. -/
def sameEntries : List (Value × Value) → List (Value × Value) → Bool
  | [], _ => true
  | (key, value) :: rest, others =>
    others.any (fun entry => key.same entry.1 && value.same entry.2) && sameEntries rest others

end

/-- What a value is, for a fault. -/
def Value.found : Value → Found
  | .nothing => .nothing
  | .boolean b => .boolean b
  | .whole n => .integer n
  | .real x => .real x
  | .text s => .text s
  | .sequence _ => .sequence
  | .mapping _ => .map
  | .tagged _ _ => .map

/-- Why an event does not give a value. -/
inductive Misread where
  | repeatedKey (key : Found)
  | notOfTag (text expected : String)
  | tooWide (n : Int)
  | emptyTag
  deriving DecidableEq, Repr

/-- A number as a document states it. -/
def realText : Decimal.Real → String
  | .finite minus magnitude => (if minus then "-" else "") ++ (magnitude.shortest .even).scientific
  | .infinite minus => if minus then "-.inf" else ".inf"
  | .notANumber => ".nan"

/-- The wording of a repeated key. -/
def keyWords : Found → String
  | .nothing => "with null key"
  | .boolean true => "with key `true`"
  | .boolean false => "with key `false`"
  | .integer n => "with key " ++ Numeral.decimalInt n
  | .real x => "with key " ++ realText x
  | .text s => "with key " ++ Text.quoted s
  | .sequence => "in YAML map"
  | .map => "in YAML map"

/-- The wording of that. -/
def Misread.message : Misread → String
  | .repeatedKey key => "duplicate entry " ++ keyWords key
  | .notOfTag text expected =>
    "invalid value: string " ++ Text.quoted text ++ ", expected " ++ expected
  | .tooWide n =>
    "invalid type: integer `" ++ Numeral.decimalInt n ++ "` as " ++
      (if n < 0 then "i128" else "u128")
      ++ ", expected any YAML value"
  | .emptyTag => "empty YAML tag is not allowed"

/-- Why a document gives no value. -/
inductive ValueFault where
  | document (fault : DocumentFault)
  | tooDeep (mark : Mark)
  | tooManyAliases
  | misread (cause : Misread) (path : String) (mark : Mark)
  deriving DecidableEq, Repr

/-- The path of a whole document. -/
def topPath : String := "."

/-- The path of an item. -/
def itemPath (parent : String) (index : Nat) : String :=
  parent ++ "[" ++ Numeral.decimal index ++ "]"

/-- The path of the value of a key. -/
def entryPath (parent key : String) : String :=
  if parent = topPath then key else parent ++ "." ++ key

/-- The wording of a fault: the path, unless it is that of the whole document, and the place. -/
def ValueFault.message : ValueFault → String
  | .document (.text fault) => fault.message
  | .document (.unknownAnchor mark) => mark.after "unknown anchor"
  | .tooDeep mark => mark.after "recursion limit exceeded"
  | .tooManyAliases => "repetition limit exceeded"
  | .misread cause path mark =>
    mark.after (if path = topPath then cause.message else path ++ ": " ++ cause.message)

/-! ## Scalars -/

/-- A whole number that fits in 64 bits, with a sign when it is below zero. -/
def wholeValue (n : Int) : Except Misread Value :=
  if -(Nat.pow 2 63 : Int) ≤ n && n < Nat.pow 2 64 then .ok (.whole n) else .error (.tooWide n)

/-- The value of a bare text. -/
def bareValue (text : String) : Except Misread Value :=
  let cs := text.toList
  if cs.isEmpty || isNull cs then .ok .nothing
  else match boolean? cs with
    | some b => .ok (.boolean b)
    | none =>
      match whole? cs with
      | some n => wholeValue n
      | none =>
        match if zeroLed cs then none else real? cs with
        | some x => .ok (.real x)
        | none => .ok (.text text)

/-- The value of a scalar without a tag. -/
def untaggedValue (text : String) : Writing → Except Misread Value
  | .bare => bareValue text
  | _ => .ok (.text text)

/-- The name of a local tag. -/
def localTag? (tag : String) : Option String :=
  match tag.toList with
  | '!' :: name => some (String.ofList name)
  | _ => none

/-- What a text is under a tag that is not local. -/
def valueOfTag (tag text : String) : Except Misread Value :=
  let cs := text.toList
  let orElse (value : Option Value) (expected : String) : Except Misread Value :=
    match value with
    | some value => .ok value
    | none => .error (.notOfTag text expected)
  if tag = "tag:yaml.org,2002:bool" then orElse ((boolean? cs).map .boolean) "a boolean"
  else if tag = "tag:yaml.org,2002:int" then
    match whole? cs with
    | some n => wholeValue n
    | none => .error (.notOfTag text "an integer")
  else if tag = "tag:yaml.org,2002:float" then orElse ((real? cs).map .real) "a float"
  else if tag = "tag:yaml.org,2002:null" then
    orElse (if isNull cs then some .nothing else none) "null"
  else .ok (.text text)

/-- A value with the local tag around it. -/
def withTag (tag : Option String) (value : Except Misread Value) : Except Misread Value :=
  match tag.bind localTag? with
  | none => value
  | some "" => .error .emptyTag
  | some name => value.map (.tagged name)

/-- The value of a scalar. -/
def scalarValue (tag : Option String) (text : String) (writing : Writing) : Except Misread Value :=
  withTag tag <|
    match tag with
    | some tag => if (localTag? tag).isSome then untaggedValue text writing else valueOfTag tag text
    | none => untaggedValue text writing

/-! ## Collections -/

/-- Events that are still to be read. -/
abbrev Ahead := List (Event × Mark)

/-- Reading counts the aliases that it follows. -/
abbrev Loading := StateT Nat (Except ValueFault)

/-- Reads a node of a path and leaves what is ahead of it. -/
abbrev NodeReader := String → Ahead → Loading (Value × Ahead)

/-- Gives the path and the place to a fault. -/
def located {α : Type} (path : String) (mark : Mark) : Except Misread α → Loading α
  | .ok value => pure value
  | .error cause => throw (.misread cause path mark)

/-- The events end early only in a document with a fault. -/
def Events.endHere (doc : Events) : Loading Unit :=
  match doc.fault with
  | some fault => throw (.document fault)
  | none => pure ()

/-- Reads the items of a sequence. -/
def readItems (doc : Events) (inside : NodeReader) (path : String) :
    Nat → Nat → Ahead → Loading (List Value × Ahead)
  | 0, _, ahead => return ([], ahead)
  | _ + 1, _, [] => do
    doc.endHere
    return ([], [])
  | _ + 1, _, (.sequenceEnd, _) :: rest => return ([], rest)
  | fuel + 1, index, ahead => do
    let (item, ahead) ← inside (itemPath path index) ahead
    let (items, ahead) ← readItems doc inside path fuel (index + 1) ahead
    return (item :: items, ahead)

/-- The path of the value whose key is this event. -/
def valuePath (parent : String) : Event → String
  | .scalar _ text _ => entryPath parent text
  | _ => entryPath parent "?"

/-- Reads the entries of a mapping that starts at `start`, after those that are known. -/
def readEntries (doc : Events) (inside : NodeReader) (path : String) (start : Mark) :
    Nat → List (Value × Value) → Ahead → Loading (List (Value × Value) × Ahead)
  | 0, known, ahead => return (known, ahead)
  | _ + 1, known, [] => do
    doc.endHere
    return (known, [])
  | _ + 1, known, (.mappingEnd, _) :: rest => return (known, rest)
  | fuel + 1, known, (event, mark) :: rest => do
    let (key, ahead) ← inside path ((event, mark) :: rest)
    if known.any fun entry => entry.1.same key then
      throw (.misread (.repeatedKey key.found) path start)
    let (value, ahead) ← inside (valuePath path event) ahead
    readEntries doc inside path start fuel (known ++ [(key, value)]) ahead

/-- Reads a node that is no alias. -/
def readContent (doc : Events) (inside : Option NodeReader) : NodeReader := fun path ahead =>
  match ahead with
  | [] => do
    doc.endHere
    return (.nothing, [])
  | (.scalar tag text writing, mark) :: rest => do
    return (← located path mark (scalarValue tag text writing), rest)
  | (.sequenceStart tag, mark) :: rest => do
    let _ ← located path mark (withTag tag (.ok .nothing))
    match inside with
    | none => throw (.tooDeep mark)
    | some inside =>
      let (items, rest) ← readItems doc inside path (rest.length + 1) 0 rest
      return (← located path mark (withTag tag (.ok (.sequence items))), rest)
  | (.mappingStart tag, mark) :: rest => do
    let _ ← located path mark (withTag tag (.ok .nothing))
    match inside with
    | none => throw (.tooDeep mark)
    | some inside =>
      let (entries, rest) ← readEntries doc inside path mark (rest.length + 1) [] rest
      return (← located path mark (withTag tag (.ok (.mapping entries))), rest)
  | _ :: rest => return (.nothing, rest)

/-- Counts an alias that is followed. On average an event may be come by 100 times. -/
def Events.countAlias (doc : Events) : Loading Unit := do
  modify (· + 1)
  if 100 * doc.events.length < (← get) then throw .tooManyAliases

/-- Reads a node, an alias by what it stands for. -/
def readNode (doc : Events) (inside : Option NodeReader) : NodeReader := fun path ahead =>
  match ahead with
  | (.alias number, _) :: rest => do
    doc.countAlias
    let position := (doc.anchors.lookup number).getD doc.events.length
    let (value, _) ← readContent doc inside path (doc.events.drop position)
    return (value, rest)
  | _ => readContent doc inside path ahead

/-- The reader of nodes in which collections are nested to a depth. -/
def nodeReader (doc : Events) : Nat → NodeReader
  | 0 => readNode doc none
  | depth + 1 => readNode doc (some (nodeReader doc depth))

/-- The value of a document. A fault after its events counts as well. -/
def Events.value (doc : Events) : Except ValueFault Value := do
  let ((value, _), _) ← ((nodeReader doc 128) topPath doc.events).run 0
  match doc.fault with
  | some fault => throw (.document fault)
  | none => return value

end AppRelease.Yaml
