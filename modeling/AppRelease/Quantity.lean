import AppRelease.Text.Blank
import AppRelease.Numeral

/-!
# Amounts of memory and processor time

Program: a quantity is written as decimal digits and a unit of letters (`70Mi`, `250m`, `2`), with
blanks around it that do not matter. `Memory.parse` and `Cpu.parse` read them; `Memory.text` and
`Cpu.text` write them, without leading zeros. Crux: memory keeps its unit and compares by bytes,
processor time is kept in thousandths of a core, so `2` and `2000m` are one quantity.
-/

namespace AppRelease

namespace Quantity

/-- Why a text is no quantity. The text is quoted as it was given; a reason may also be stated
freely. -/
inductive Fault where
  | malformed (text : String)
  | number (text : String) (cause : Numeral.Fault)
  | unknownMemoryUnit (text unit : String)
  | tooLarge (text : String)
  | unknownCpuUnit (text unit : String)
  | stated (reason : String)
  deriving DecidableEq, Repr

/-- The wording of a fault. -/
def Fault.message : Fault → String
  | .malformed text => s!"'{text}' is not a quantity"
  | .number text cause => s!"'{text}': " ++ cause.message
  | .unknownMemoryUnit text unit =>
    s!"'{text}' has unknown memory unit '{unit}' "
      ++ "(expected one of k, M, G, T, P, E, Ki, Mi, Gi, Ti, Pi, Ei)"
  | .tooLarge text => s!"'{text}' is too large"
  | .unknownCpuUnit text unit =>
    s!"'{text}' has unknown cpu unit '{unit}' (expected 'm' or whole cores)"
  | .stated reason => reason

/-- The digits and the letters of a quantity: at least one digit first, then letters only. -/
def split? (cs : List Char) : Option (List Char × List Char) :=
  let digits := cs.takeWhile Char.isDigit
  let letters := cs.dropWhile Char.isDigit
  if digits.isEmpty || !letters.all Char.isAlpha then none else some (digits, letters)

/-- The magnitude and the unit that a text states. -/
def read (text : String) : Except Fault (UInt64 × String) :=
  match split? (Text.trimChars text.toList) with
  | none => .error (.malformed text)
  | some (digits, letters) =>
    match Numeral.readBounded (UInt64.size - 1) digits with
    | .error cause => .error (.number text cause)
    | .ok n => .ok (UInt64.ofNat n, String.ofList letters)

end Quantity

/-! ## Memory -/

/-- The units of memory: powers of a thousand and of 1024. -/
inductive MemoryUnit where
  | byte | kilo | mega | giga | tera | peta | exa
  | kibi | mebi | gibi | tebi | pebi | exbi
  deriving DecidableEq, Repr

namespace MemoryUnit

/-- Every unit. -/
def all : List MemoryUnit :=
  [byte, kilo, mega, giga, tera, peta, exa, kibi, mebi, gibi, tebi, pebi, exbi]

/-- How a unit is written after the digits. -/
def suffix : MemoryUnit → String
  | byte => ""
  | kilo => "k"
  | mega => "M"
  | giga => "G"
  | tera => "T"
  | peta => "P"
  | exa => "E"
  | kibi => "Ki"
  | mebi => "Mi"
  | gibi => "Gi"
  | tebi => "Ti"
  | pebi => "Pi"
  | exbi => "Ei"

/-- The bytes in one unit. -/
def multiplier : MemoryUnit → Nat
  | byte => 1
  | kilo => 1000
  | mega => Nat.pow 1000 2
  | giga => Nat.pow 1000 3
  | tera => Nat.pow 1000 4
  | peta => Nat.pow 1000 5
  | exa => Nat.pow 1000 6
  | kibi => 1024
  | mebi => Nat.pow 1024 2
  | gibi => Nat.pow 1024 3
  | tebi => Nat.pow 1024 4
  | pebi => Nat.pow 1024 5
  | exbi => Nat.pow 1024 6

/-- The unit written in this way. -/
def ofSuffix? (s : String) : Option MemoryUnit := all.find? fun u => u.suffix == s

end MemoryUnit

/-- An amount of memory in the unit it was stated in. -/
structure Memory where
  magnitude : UInt64
  unit : MemoryUnit
  deriving DecidableEq, Repr

namespace Memory

/-- An amount in mebibytes. -/
def mebibytes (n : UInt64) : Memory := ⟨n, .mebi⟩

/-- An amount in gibibytes. -/
def gibibytes (n : UInt64) : Memory := ⟨n, .gibi⟩

/-- The amount in bytes. -/
def bytes (m : Memory) : Nat := m.magnitude.toNat * m.unit.multiplier

/-- How the amount is written. -/
def text (m : Memory) : String := Numeral.decimal m.magnitude.toNat ++ m.unit.suffix

/-- Reads an amount of memory. -/
def parse (s : String) : Except Quantity.Fault Memory :=
  match Quantity.read s with
  | .error fault => .error fault
  | .ok (magnitude, unit) =>
    match MemoryUnit.ofSuffix? unit with
    | some u => .ok ⟨magnitude, u⟩
    | none => .error (.unknownMemoryUnit s unit)

end Memory

/-! ## Processor time -/

/-- Processor time in thousandths of a core. -/
structure Cpu where
  millis : UInt64
  deriving DecidableEq, Repr

namespace Cpu

/-- Whole cores, counted modulo 2^64 thousandths. -/
def cores (n : UInt64) : Cpu := ⟨n * 1000⟩

/-- How processor time is written: always in thousandths. -/
def text (c : Cpu) : String := Numeral.decimal c.millis.toNat ++ "m"

/-- Reads processor time in thousandths (`m`) or whole cores. -/
def parse (s : String) : Except Quantity.Fault Cpu :=
  match Quantity.read s with
  | .error fault => .error fault
  | .ok (magnitude, unit) =>
    if unit = "m" then .ok ⟨magnitude⟩
    else if unit = "" then
      if magnitude.toNat * 1000 < UInt64.size then .ok ⟨magnitude * 1000⟩
      else .error (.tooLarge s)
    else .error (.unknownCpuUnit s unit)

end Cpu

end AppRelease
