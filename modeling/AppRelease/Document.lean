import AppRelease.Json.Literal
import AppRelease.Numeral
import AppRelease.Text.Cut

/-!
# Documents

Data: a document is what is written out as YAML or JSON: texts, whole numbers, truth values, lists,
and records whose fields keep their order.

Program: `Document.toJson` writes a document over several lines, two blanks deeper for every list
and record that is open. An empty list or record stays on its line.
-/

namespace AppRelease

/-- A value to be written out. -/
inductive Document where
  | text (s : String)
  | number (n : Int)
  | flag (b : Bool)
  | list (items : List Document)
  | record (fields : List (String × Document))
  deriving Inhabited, Repr

/-! ## JSON -/

namespace Json

/-- A new line at a depth. -/
def newLine (depth : Nat) : String := String.ofList ('\n' :: List.replicate (2 * depth) ' ')

mutual

/-- A document at a depth. -/
def write (depth : Nat) : Document → String
  | .text s => writeText s
  | .number n => Numeral.decimalInt n
  | .flag true => "true"
  | .flag false => "false"
  | .list [] => "[]"
  | .list items => "[" ++ writeItems (depth + 1) items ++ newLine depth ++ "]"
  | .record [] => "\x7b\x7d"
  | .record fields => "\x7b" ++ writeFields (depth + 1) fields ++ newLine depth ++ "\x7d"

/-- The items of a list, each on a line of its own. -/
def writeItems (depth : Nat) : List Document → String
  | [] => ""
  | [item] => newLine depth ++ write depth item
  | item :: rest => newLine depth ++ write depth item ++ "," ++ writeItems depth rest

/-- The fields of a record, each on a line of its own. -/
def writeFields (depth : Nat) : List (String × Document) → String
  | [] => ""
  | [(key, value)] => newLine depth ++ writeText key ++ ": " ++ write depth value
  | (key, value) :: rest =>
    newLine depth ++ writeText key ++ ": " ++ write depth value ++ "," ++ writeFields depth rest

end

end Json

/-- A document written as JSON. -/
def Document.toJson (d : Document) : String := Json.write 0 d

end AppRelease
