import AppRelease.Dict
import AppRelease.Json.Reader
import AppRelease.Text.Blank
import AppRelease.Text.Cut

/-!
# The content of a secrets file

Program: the content is read in one of two ways.

1. **Lines.** `readLine` reads one line, `readDotenv` all of them, numbered from 1. A line is blank,
   a comment, or an assignment `KEY=value`, which may have `export ` before it. The value is taken
   as it stands, blanks around it and one pair of quotes apart: nothing is escaped and nothing is
   expanded.
2. **A JSON object.** `scalars` takes the members of an object as secrets. The last member of a key
   counts. A text stands for itself, a number and a truth value for the text they are written with;
   the smallest key with anything else is a fault.
-/

namespace AppRelease.Secrets

/-! ## Faults -/

/-- A value that is not a single text, number or truth value. -/
inductive Compound where
  | null
  | array
  | object
  deriving DecidableEq, Repr

/-- The wording of what the value is. -/
def Compound.message : Compound → String
  | .null => "null"
  | .array => "an array"
  | .object => "an object"

/-- Why the content of a secrets file cannot be read. -/
inductive Fault where
  | noAssignment (line : String)
  | emptyKey
  | json (error : Json.Error)
  | notScalar (key : String) (found : Compound)
  | stated (reason : String)
  deriving DecidableEq, Repr

/-- The wording of a fault. -/
def Fault.message : Fault → String
  | .noAssignment line => s!"expected KEY=value, got '{line}'"
  | .emptyKey => "empty key"
  | .json error => error.message
  | .notScalar key found => s!"value of '{key}' is " ++ found.message ++ ", expected a scalar"
  | .stated reason => reason

/-! ## Lines -/

/-- What a line holds. -/
inductive Line where
  | skipped
  | assignment (key value : String)
  deriving DecidableEq, Repr

/-- A value without one quote at each end, when both are `quote`. -/
def unquoteWith (quote : Char) : List Char → Option (List Char)
  | [] => none
  | first :: rest =>
    if first = quote ∧ rest.getLast? = some quote then some rest.dropLast else none

/-- A value without the pair of quotes around it. Double quotes are looked for first. -/
def unquote (value : List Char) : List Char :=
  ((unquoteWith '"' value).or (unquoteWith '\'' value)).getD value

/-- An assignment without the word `export` before it. -/
def withoutExport (line : List Char) : List Char :=
  (Text.after? "export ".toList line).getD line

/-- Reads one line. -/
def readLine (line : List Char) : Except Fault Line :=
  let trimmed := Text.trimChars line
  if trimmed = [] ∨ trimmed.head? = some '#' then .ok .skipped
  else
    match Text.cutAt '=' (withoutExport trimmed) with
    | none => .error (.noAssignment (String.ofList trimmed))
    | some (key, value) =>
      let key := Text.trimChars key
      if key = [] then .error .emptyKey
      else .ok (.assignment (String.ofList key) (String.ofList (unquote (Text.trimChars value))))

/-- Reads lines from a number on: the assignments in order, or the first line that cannot be
read. -/
def readLines (number : Nat) : List (List Char) → Except (Nat × Fault) (List (String × String))
  | [] => .ok []
  | line :: rest =>
    match readLine line with
    | .error fault => .error (number, fault)
    | .ok .skipped => readLines (number + 1) rest
    | .ok (.assignment key value) => do
      let others ← readLines (number + 1) rest
      return (key, value) :: others

/-- The assignments of a file, in order. -/
def readDotenv (content : String) : Except (Nat × Fault) (List (String × String)) :=
  readLines 1 (Text.lines content.toList)

/-! ## A JSON object -/

/-- The text of a single value. -/
def scalarText : Json.Value → Except Compound String
  | .text s => .ok s
  | .number n => .ok n.text
  | .boolean true => .ok "true"
  | .boolean false => .ok "false"
  | .null => .error .null
  | .array _ => .error .array
  | .object _ => .error .object

/-- Members as secrets, in their order. -/
def scalarMembers : List (String × Json.Value) → Except Fault (List (String × String))
  | [] => .ok []
  | (key, value) :: rest =>
    match scalarText value with
    | .error found => .error (.notScalar key found)
    | .ok text => do
      let others ← scalarMembers rest
      return (key, text) :: others

/-- The members of an object as secrets, by ascending key. -/
def scalars (members : List (String × Json.Value)) : Except Fault (List (String × String)) :=
  scalarMembers (Dict.ofList members).entries

end AppRelease.Secrets
