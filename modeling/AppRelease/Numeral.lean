/-!
# Whole numbers of limited size

Program: `readBounded` reads an optional plus sign and decimal digits, from left to right; the first
character that is no digit, or the first digit that takes the number past the limit, decides the
fault.
-/

namespace AppRelease.Numeral

/-- Why a text is no whole number of the size asked for. -/
inductive Fault where
  | empty
  | invalidDigit
  | tooLarge
  deriving DecidableEq, Repr

/-- The wording of a fault. -/
def Fault.message : Fault → String
  | .empty => "cannot parse integer from empty string"
  | .invalidDigit => "invalid digit found in string"
  | .tooLarge => "number too large to fit in target type"

/-- The value of a decimal digit. -/
def digit? (c : Char) : Option Nat :=
  if c.isDigit then some (c.toNat - '0'.toNat) else none

/-- Reads digits after the number `n` has been read. -/
def readDigits (limit n : Nat) : List Char → Except Fault Nat
  | [] => .ok n
  | c :: rest =>
    match digit? c with
    | none => .error .invalidDigit
    | some d => if limit < 10 * n + d then .error .tooLarge else readDigits limit (10 * n + d) rest

/-- Reads a number up to `limit`. -/
def readBounded (limit : Nat) : List Char → Except Fault Nat
  | [] => .error .empty
  | ['+'] => .error .invalidDigit
  | '+' :: rest => readDigits limit 0 rest
  | cs => readDigits limit 0 cs

/-- The decimal digits of a number. -/
def decimal (n : Nat) : String := String.ofList (Nat.toDigits 10 n)

/-- The decimal digits of an integer, with a minus sign when it is negative. -/
def decimalInt : Int → String
  | .ofNat n => decimal n
  | .negSucc n => "-" ++ decimal (n + 1)

/-- A number that was read is within the limit. -/
theorem le_of_readDigits {limit n : Nat} {cs : List Char} {m : Nat} (small : n ≤ limit)
    (h : readDigits limit n cs = .ok m) : m ≤ limit := by
  induction cs generalizing n with
  | nil =>
    simp only [readDigits, Except.ok.injEq] at h
    omega
  | cons c rest ih =>
    simp only [readDigits] at h
    split at h
    · exact absurd h (by simp)
    · split at h
      · exact absurd h (by simp)
      · exact ih (by omega) h

end AppRelease.Numeral
