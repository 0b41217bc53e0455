import AppRelease.Json.Numeral
import AppRelease.Json.Literal

/-!
# Reading JSON documents

Program: `Value.read` reads any document, `readObject` one that has to be an object,
`readTextDocument` one that has to be a text. Crux: values nest, and the depth still allowed is what
the recursion goes down on; within one depth, a list or an object is a row of items, each of which
takes at least one character.
-/

namespace AppRelease.Json

/-- How many lists and objects may be open at once, plus one. -/
def depthLimit : Nat := 128

/-- Passes the letters of a word that is known from its first letter. -/
def readWord (c : Cursor) : List Char → Except Error Cursor
  | [] => .ok c
  | a :: letters =>
    match c.rest with
    | [] => c.fail .endInValue
    | b :: _ => if a = b then readWord (c.skip 1) letters else c.failAhead .expectedWord

/-- The items after the first, up to the end of the list. -/
def readItems {α : Type} (item : Cursor → Except Error (α × Cursor)) :
    Nat → Cursor → Except Error (List α × Cursor)
  | 0, c => c.fail .endInList
  | fuel + 1, c =>
    let c := c.skipSpace
    match c.rest with
    | [] => c.fail .endInList
    | ']' :: _ => .ok ([], c.skip 1)
    | ',' :: _ =>
      let c := (c.skip 1).skipSpace
      match c.rest with
      | [] => c.fail .endInValue
      | ']' :: _ => c.failAhead .trailingComma
      | _ => do
        let (first, c) ← item c
        let (others, c) ← readItems item fuel c
        return (first :: others, c)
    | _ => c.failAhead .expectedListEnd

/-- A list after its opening bracket. -/
def readList {α : Type} (item : Cursor → Except Error (α × Cursor)) (c : Cursor) :
    Except Error (List α × Cursor) :=
  let c := c.skipSpace
  match c.rest with
  | [] => c.fail .endInList
  | ']' :: _ => .ok ([], c.skip 1)
  | _ => do
    let (first, c) ← item c
    let (others, c) ← readItems item (c.rest.length + 1) c
    return (first :: others, c)

/-- A key, a colon and a value. -/
def readMember {α : Type} (item : Cursor → Except Error (α × Cursor)) (c : Cursor) :
    Except Error ((String × α) × Cursor) := do
  let (key, c) ← readText c
  let c := c.skipSpace
  match c.rest with
  | [] => c.fail .endInObject
  | ':' :: _ =>
    let (value, c) ← item (c.skip 1)
    return ((key, value), c)
  | _ => c.failAhead .expectedColon

/-- The members after the first, up to the end of the object. -/
def readMembers {α : Type} (item : Cursor → Except Error (α × Cursor)) :
    Nat → Cursor → Except Error (List (String × α) × Cursor)
  | 0, c => c.fail .endInObject
  | fuel + 1, c =>
    let c := c.skipSpace
    match c.rest with
    | [] => c.fail .endInObject
    | '\x7d' :: _ => .ok ([], c.skip 1)
    | ',' :: _ =>
      let c := (c.skip 1).skipSpace
      match c.rest with
      | [] => c.fail .endInValue
      | '"' :: _ => do
        let (first, c) ← readMember item c
        let (others, c) ← readMembers item fuel c
        return (first :: others, c)
      | '\x7d' :: _ => c.failAhead .trailingComma
      | _ => c.failAhead .keyNotText
    | _ => c.failAhead .expectedObjectEnd

/-- The members of an object after its opening brace. -/
def readObjectBody {α : Type} (item : Cursor → Except Error (α × Cursor)) (c : Cursor) :
    Except Error (List (String × α) × Cursor) :=
  let c := c.skipSpace
  match c.rest with
  | [] => c.fail .endInObject
  | '\x7d' :: _ => .ok ([], c.skip 1)
  | '"' :: _ => do
    let (first, c) ← readMember item c
    let (others, c) ← readMembers item (c.rest.length + 1) c
    return (first :: others, c)
  | _ => c.failAhead .keyNotText

/-- Any value, where `depth` lists and objects may still be opened around what is inside. -/
def readValue : Nat → Cursor → Except Error (Value × Cursor)
  | 0, c => c.failAhead .tooDeep
  | depth + 1, c =>
    let c := c.skipSpace
    match c.rest with
    | [] => c.fail .endInValue
    | 'n' :: _ => do
      let c ← readWord (c.skip 1) ['u', 'l', 'l']
      return (.null, c)
    | 't' :: _ => do
      let c ← readWord (c.skip 1) ['r', 'u', 'e']
      return (.boolean true, c)
    | 'f' :: _ => do
      let c ← readWord (c.skip 1) ['a', 'l', 's', 'e']
      return (.boolean false, c)
    | '"' :: _ => do
      let (s, c) ← readText c
      return (.text s, c)
    | '[' :: _ =>
      if depth = 0 then c.failAhead .tooDeep
      else do
        let (items, c) ← readList (readValue depth) (c.skip 1)
        return (.array items, c)
    | '\x7b' :: _ =>
      if depth = 0 then c.failAhead .tooDeep
      else do
        let (members, c) ← readObjectBody (readValue depth) (c.skip 1)
        return (.object members, c)
    | a :: _ =>
      if a = '-' || a.isDigit then do
        let (n, c) ← readNumber c
        return (.number n, c)
      else c.failAhead .expectedValue

/-- Nothing but space may follow a document. -/
def expectEnd {α : Type} (value : α) (c : Cursor) : Except Error α :=
  let c := c.skipSpace
  if c.rest.isEmpty then .ok value else c.failAhead .trailingCharacters

/-- The error of a value of another kind than `expected`. A list or an object is not read, anything
else is read first and may itself be wrong. -/
def readOther {α : Type} (expected : String) (c : Cursor) : Except Error α :=
  match c.rest with
  | '[' :: _ => c.fail (.wrongKind .sequence expected)
  | '\x7b' :: _ => c.fail (.wrongKind .map expected)
  | _ => do
    let (value, c) ← readValue 1 c
    match value with
    | .null => c.fail (.wrongKind .null expected)
    | .boolean b => c.fail (.wrongKind (.boolean b) expected)
    | .number n => c.fail (.wrongKind (.number n) expected)
    | .text s => c.fail (.wrongKind (.text s) expected)
    | .array _ => c.fail (.wrongKind .sequence expected)
    | .object _ => c.fail (.wrongKind .map expected)

/-- Reads any document. -/
def Value.read (text : String) : Except Error Value := do
  let (value, c) ← readValue depthLimit (Cursor.start text.toList)
  expectEnd value c

/-- Reads a document that has to be an object: its members in the order of the text. -/
def readObject (text : String) : Except Error (List (String × Value)) :=
  let c := (Cursor.start text.toList).skipSpace
  match c.rest with
  | '\x7b' :: _ => do
    let (members, c) ← readObjectBody (readValue (depthLimit - 1)) (c.skip 1)
    expectEnd members c
  | _ => readOther "a map" c

/-- Reads a document that has to be a text. What follows the text is left to the caller. -/
def readTextDocument (text : String) : Except Error (String × Cursor) :=
  let c := (Cursor.start text.toList).skipSpace
  match c.rest with
  | '"' :: _ => readText c
  | _ => readOther "a string" c

end AppRelease.Json
