import AppRelease.Document
import AppRelease.Yaml.Scalar

/-!
# Documents in YAML

Program: `Document.toYaml` writes a document as blocks, two blanks deeper for every record. A list
stands below its key without being indented. An empty list or record is written in brackets.

A key of more than 128 bytes, or one with a line end, stands after a question mark and its value
after a colon on the next line.
-/

namespace AppRelease

namespace Yaml

/-- A text after a blank, at a depth, up to the end of its line. -/
def writeValue (indent : Nat) (s : String) : List Char :=
  let cs := s.toList
  let style := style false cs
  ' ' :: (writeScalar indent cs style ++ if endsLine cs style then [] else ['\n'])

/-- Whether a key can stand before a colon on one line. -/
def isSimpleKey (key : String) : Bool := !key.toList.any isBreak && key.utf8ByteSize ≤ 128

/-- A key at a depth, up to and including the colon. -/
def writeKey (indent : Nat) (key : String) : List Char :=
  let cs := key.toList
  if isSimpleKey key then writeScalar (indent + 2) cs (style true cs) ++ [':']
  else '?' :: (writeValue (indent + 2) key ++ blanks indent ++ [':'])

mutual

/-- What follows a colon or a dash at a depth. -/
def writeNode (indent : Nat) : Document → List Char
  | .text s => writeValue (indent + 2) s
  | .number n => ' ' :: ((Numeral.decimalInt n).toList ++ ['\n'])
  | .flag true => " true\n".toList
  | .flag false => " false\n".toList
  | .list [] => " []\n".toList
  | .list items => '\n' :: writeItems indent true items
  | .record [] => " \x7b\x7d\n".toList
  | .record fields => '\n' :: writeFields (indent + 2) true fields

/-- The items of a list, each after a dash. The first one may already be at its place. -/
def writeItems (indent : Nat) (fresh : Bool) : List Document → List Char
  | [] => []
  | .record (field :: fields) :: rest =>
    (if fresh then blanks indent else []) ++ ['-', ' ']
      ++ writeFields (indent + 2) false (field :: fields) ++ writeItems indent true rest
  | .list (item :: items) :: rest =>
    (if fresh then blanks indent else []) ++ ['-', ' ']
      ++ writeItems (indent + 2) false (item :: items) ++ writeItems indent true rest
  | item :: rest =>
    (if fresh then blanks indent else []) ++ '-' :: writeNode indent item
      ++ writeItems indent true rest

/-- The fields of a record. The first one may already be at its place. -/
def writeFields (indent : Nat) (fresh : Bool) : List (String × Document) → List Char
  | [] => []
  | (key, value) :: rest =>
    (if fresh then blanks indent else []) ++ writeKey indent key ++ writeNode indent value
      ++ writeFields indent true rest

end

end Yaml

/-- A document written as YAML. -/
def Document.toYaml : Document → String
  | .record (field :: fields) => String.ofList (Yaml.writeFields 0 true (field :: fields))
  | .list (item :: items) => String.ofList (Yaml.writeItems 0 true (item :: items))
  | other => String.ofList ((Yaml.writeNode 0 other).drop 1)

end AppRelease
