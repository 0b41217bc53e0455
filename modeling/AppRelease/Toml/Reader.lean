import AppRelease.Toml.Item
import AppRelease.Toml.Lexical

/-!
# Reading TOML documents

Program: `readDocument` reads the entries of a document. Crux: values nest, and the depth still
allowed is what the recursion goes down on; within one depth, a list or an inline table is a row of
items, each of which takes at least one character.
-/

namespace AppRelease.Toml

/-- The values of a list after its opening bracket, up to and including its end. Line ends and
comments may stand between them, and a comma after the last one. -/
def readItems {α : Type} (item : List Char → Option (α × List Char)) : Nat → List Char →
    Option (List α × List Char)
  | 0, _ => none
  | fuel + 1, cs => do
    let (first, rest) ← item (skipFiller cs.length cs)
    match skipFiller rest.length rest with
    | ']' :: rest => return ([first], rest)
    | ',' :: rest =>
      match skipFiller rest.length rest with
      | ']' :: rest => return ([first], rest)
      | _ => do
        let (others, rest) ← readItems item fuel rest
        return (first :: others, rest)
    | _ => none

/-- A list after its opening bracket. -/
def readArray {α : Type} (item : List Char → Option (α × List Char)) (cs : List Char) :
    Option (List α × List Char) :=
  match skipFiller cs.length cs with
  | ']' :: rest => some ([], rest)
  | rest => readItems item (rest.length + 1) rest

/-- A key, an equals sign and a value. -/
def readPairOf {α : Type} (item : List Char → Option (α × List Char)) (cs : List Char) :
    Option ((List String × α) × List Char) := do
  let (key, rest) ← readKey cs
  let rest ← expect '=' rest
  let (value, rest) ← item (skipBlanks rest)
  return ((key, value), rest)

/-- The pairs of an inline table after its opening brace, up to and including its end. -/
def readPairs {α : Type} (item : List Char → Option (α × List Char)) : Nat → List Char →
    Option (List (List String × α) × List Char)
  | 0, _ => none
  | fuel + 1, cs => do
    let (first, rest) ← readPairOf item cs
    match skipBlanks rest with
    | '\x7d' :: rest => return ([first], rest)
    | ',' :: rest => do
      let (others, rest) ← readPairs item fuel rest
      return (first :: others, rest)
    | _ => none

/-- An inline table after its opening brace: its pairs in order. -/
def readInline {α : Type} (item : List Char → Option (α × List Char)) (cs : List Char) :
    Option (List (List String × α) × List Char) :=
  match skipBlanks cs with
  | '\x7d' :: rest => some ([], rest)
  | rest => readPairs item (rest.length + 1) rest

/-- The entries that the pairs of an inline table make. -/
def inlineEntries (pairs : List (List String × Item)) : Option Entries :=
  pairs.foldl (fun entries? pair => do
    let entries ← entries?
    let key ← pair.1.getLast?
    insertAt pair.1.dropLast key pair.2 .inline entries) (some [])

/-- A value, where `depth` lists and inline tables may still be opened. -/
def readValue : Nat → List Char → Option (Item × List Char)
  | 0, _ => none
  | depth + 1, cs =>
    match cs with
    | '"' :: _ => (readText cs).map fun (s, rest) => (.text s, rest)
    | '\'' :: _ => (readText cs).map fun (s, rest) => (.text s, rest)
    | '[' :: rest => do
      if depth = 0 then none
      let (items, rest) ← readArray (readValue depth) rest
      return (.array items, rest)
    | '\x7b' :: rest => do
      if depth = 0 then none
      let (pairs, rest) ← readInline (readValue depth) rest
      let entries ← inlineEntries pairs
      return (.table .inline entries, rest)
    | 't' :: 'r' :: 'u' :: 'e' :: rest => some (.boolean true, rest)
    | 'f' :: 'a' :: 'l' :: 's' :: 'e' :: rest => some (.boolean false, rest)
    | _ =>
      if startsDate cs then (skipDateOrTime cs).map fun rest => (.datetime, rest)
      else (readNumber cs).map fun
        | (.inl n, rest) => (.integer n, rest)
        | (.inr x, rest) => (.real x, rest)

/-- A header after its opening bracket, up to the end of its line. -/
def readHeader (cs : List Char) : Option (List String × List Char) := do
  let (path, rest) ← readKey cs
  let rest ← expect ']' rest
  let rest ← lineEnd? rest
  return (path, rest)

/-- A header of a list element after its opening brackets, up to the end of its line. -/
def readElementHeader (cs : List Char) : Option (List String × List Char) := do
  let (path, rest) ← readKey cs
  let rest ← expect ']' rest
  let rest ← expect ']' rest
  let rest ← lineEnd? rest
  return (path, rest)

/-- The lines of a document. Every round takes a character at least. -/
def readLines : Nat → Draft → List Char → Option Draft
  | 0, _, _ => none
  | fuel + 1, draft, cs =>
    match skipBlanks cs with
    | [] => some draft
    | '[' :: '[' :: rest => do
      let (path, rest) ← readElementHeader rest
      let draft ← draft.openElement path
      readLines fuel draft rest
    | '[' :: rest => do
      let (path, rest) ← readHeader rest
      let draft ← draft.openTable path
      readLines fuel draft rest
    | '#' :: rest => do
      let rest ← lineEnd? ('#' :: rest)
      readLines fuel draft rest
    | '\n' :: rest => readLines fuel draft rest
    | '\r' :: '\n' :: rest => readLines fuel draft rest
    | rest => do
      let ((path, value), rest) ← readPairOf (readValue depthLimit) rest
      let rest ← lineEnd? rest
      let key ← path.getLast?
      let draft ← draft.insert path.dropLast key value
      readLines fuel draft rest

/-- The entries of a document. A byte order mark may come first. -/
def readDocument (text : String) : Option Entries :=
  let cs := dropMark text.toList
  (readLines (cs.length + 1) {} cs).bind Draft.close
where
  /-- After a byte order mark. -/
  dropMark : List Char → List Char
    | c :: rest => if c.toNat = 0xFEFF then rest else c :: rest
    | [] => []

end AppRelease.Toml
