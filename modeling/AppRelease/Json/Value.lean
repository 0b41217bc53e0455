import AppRelease.Decimal.Shortest
import AppRelease.Text.Quoted

/-!
# JSON values, and what is wrong with a JSON text

Data: a document as it was read. The members of an object stand in the order of the text, repeated
keys included; which of them counts is decided where the object is used. A number is whole while it
fits in 64 bits, else it has double precision. An `Error` is why a text cannot be read, and where. A
position counts lines from 1 and bytes within the line; the start of a line is column 0.
-/

namespace AppRelease.Json

/-- A number. `negative n` is `-n`, with `n` from 1 to 2^63. -/
inductive Number where
  | natural (n : Nat)
  | negative (n : Nat)
  | real (minus : Bool) (magnitude : Decimal.Binary64)
  deriving DecidableEq, Repr

/-- How a number is written: a whole number by its digits, any other with a point or an exponent. -/
def Number.text : Number → String
  | .natural n => Numeral.decimal n
  | .negative n => "-" ++ Numeral.decimal n
  | .real minus magnitude => (if minus then "-" else "") ++ (magnitude.shortest .even).scientific

/-- A JSON value. -/
inductive Value where
  | null
  | boolean (b : Bool)
  | number (n : Number)
  | text (s : String)
  | array (items : List Value)
  | object (members : List (String × Value))
  deriving Inhabited, Repr

/-! ## Errors -/

/-- A place in a text. -/
structure Position where
  line : Nat
  column : Nat
  deriving DecidableEq, Repr

/-- A value of another kind than asked for. -/
inductive Found where
  | null
  | boolean (b : Bool)
  | number (n : Number)
  | text (s : String)
  | sequence
  | map
  deriving DecidableEq, Repr

/-- The wording of what was found. -/
def Found.message : Found → String
  | .null => "null"
  | .boolean true => "boolean `true`"
  | .boolean false => "boolean `false`"
  | .number (.real minus magnitude) =>
    "floating point `" ++ (Number.real minus magnitude).text ++ "`"
  | .number n => "integer `" ++ n.text ++ "`"
  | .text s => "string " ++ Text.quoted s
  | .sequence => "sequence"
  | .map => "map"

/-- Why a text cannot be read. -/
inductive Fault where
  | endInValue
  | endInText
  | endInObject
  | endInList
  | expectedValue
  | expectedWord
  | expectedColon
  | expectedListEnd
  | expectedObjectEnd
  | keyNotText
  | trailingComma
  | trailingCharacters
  | invalidNumber
  | numberOutOfRange
  | invalidEscape
  | controlCharacter
  | loneSurrogate
  | unfinishedSurrogate
  | tooDeep
  | wrongKind (found : Found) (expected : String)
  deriving DecidableEq, Repr

/-- The wording of a fault. -/
def Fault.message : Fault → String
  | .endInValue => "EOF while parsing a value"
  | .endInText => "EOF while parsing a string"
  | .endInObject => "EOF while parsing an object"
  | .endInList => "EOF while parsing a list"
  | .expectedValue => "expected value"
  | .expectedWord => "expected ident"
  | .expectedColon => "expected `:`"
  | .expectedListEnd => "expected `,` or `]`"
  | .expectedObjectEnd => "expected `,` or `\x7d`"
  | .keyNotText => "key must be a string"
  | .trailingComma => "trailing comma"
  | .trailingCharacters => "trailing characters"
  | .invalidNumber => "invalid number"
  | .numberOutOfRange => "number out of range"
  | .invalidEscape => "invalid escape"
  | .controlCharacter => "control character (\\u0000-\\u001F) found while parsing a string"
  | .loneSurrogate => "lone leading surrogate in hex escape"
  | .unfinishedSurrogate => "unexpected end of hex escape"
  | .tooDeep => "recursion limit exceeded"
  | .wrongKind found expected => "invalid type: " ++ found.message ++ ", expected " ++ expected

/-- A fault and its place. -/
structure Error where
  fault : Fault
  position : Position
  deriving DecidableEq, Repr

/-- The wording of an error. -/
def Error.message (e : Error) : String :=
  e.fault.message ++ " at line " ++ Numeral.decimal e.position.line
    ++ " column " ++ Numeral.decimal e.position.column

end AppRelease.Json
