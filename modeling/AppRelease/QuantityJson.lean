import AppRelease.Error
import AppRelease.Json.Reader

/-!
# Quantities in JSON

Program: a quantity is a JSON text that reads as one. The quantity is judged as soon as its text is
read, before what follows the text.
-/

namespace AppRelease

/-- Reads a JSON text as a quantity. -/
def readQuantityJson {α : Type} (parse : String → Except Quantity.Fault α) (json : String) :
    Except Error α :=
  match Json.readTextDocument json with
  | .error error => .error (.json (.json error))
  | .ok (text, rest) =>
    match parse text with
    | .error cause => .error (.json (.quantity cause))
    | .ok quantity =>
      match Json.expectEnd quantity rest with
      | .ok quantity => .ok quantity
      | .error error => .error (.json (.json error))

/-- Reads memory from JSON. -/
def Memory.ofJson (json : String) : Except Error Memory := readQuantityJson Memory.parse json

/-- Writes memory as JSON. -/
def Memory.toJson (m : Memory) : String := Json.writeText m.text

/-- Reads processor time from JSON. -/
def Cpu.ofJson (json : String) : Except Error Cpu := readQuantityJson Cpu.parse json

/-- Writes processor time as JSON. -/
def Cpu.toJson (c : Cpu) : String := Json.writeText c.text

end AppRelease
