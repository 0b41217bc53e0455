import AppRelease.Decimal.Shortest
import AppRelease.Text.Cut
import AppRelease.Text.Quoted

/-!
# What was found in place of something else

Data: a document of the wrong shape names what was found and what was expected. That is said in the
same words of every format; a text that is no TOML at all is just malformed.
-/

namespace AppRelease

/-- A value of another kind than asked for. -/
inductive Found where
  | nothing
  | integer (n : Int)
  | real (x : Decimal.Real)
  | boolean (b : Bool)
  | text (s : String)
  | sequence
  | map
  deriving DecidableEq, Repr

/-- The wording of what was found. -/
def Found.message : Found → String
  | .nothing => "unit value"
  | .integer n => "integer `" ++ Numeral.decimalInt n ++ "`"
  | .real x => "floating point `" ++ x.text ++ "`"
  | .boolean true => "boolean `true`"
  | .boolean false => "boolean `false`"
  | .text s => "string " ++ Text.quoted s
  | .sequence => "sequence"
  | .map => "map"

/-- That something was found where another kind was expected. -/
def Found.insteadOf (found : Found) (expected : String) : String :=
  "invalid type: " ++ found.message ++ ", expected " ++ expected

/-- Names that would have been right, in words. -/
def namesInWords : List String → String
  | [] => "no variants"
  | [a] => "`" ++ a ++ "`"
  | [a, b] => "`" ++ a ++ "` or `" ++ b ++ "`"
  | more => "one of " ++ Text.joinWith ", " (more.map fun a => "`" ++ a ++ "`")

/-- That a name is none of those that would have been right. -/
def unknownName (name expected : String) : String :=
  "unknown variant `" ++ name ++ "`, expected " ++ expected

/-! ## TOML -/

namespace Toml

/-- Why a document cannot be used. -/
inductive Fault where
  | malformed
  | misshapen
  | wrongKind (found : Found) (expected : String)
  | unknownVariant (name expected : String)
  deriving DecidableEq, Repr

/-- The wording of a fault about the kind of a value; other faults have none of their own. -/
def Fault.message? : Fault → Option String
  | .malformed => none
  | .misshapen => none
  | .wrongKind found expected => some (found.insteadOf expected)
  | .unknownVariant name expected => some (unknownName name expected)

end Toml

end AppRelease
