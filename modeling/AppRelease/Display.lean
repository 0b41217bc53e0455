import AppRelease.Application.Config
import AppRelease.Release
import AppRelease.Table

/-!
# What is shown

Program: the table of applications, the tables of one configuration, in which secrets are masked,
and the table of what a release did.
-/

namespace AppRelease.Display

/-! ## Signs -/

/-- Colours of a terminal. -/
inductive Colour where
  | yellow
  | cyan
  deriving DecidableEq, Repr

/-- The name of a colour. -/
def Colour.name : Colour → String
  | .yellow => "Yellow"
  | .cyan => "Cyan"

/-- The sign of a variable, secret or not. -/
def icon (secret : Bool) : String := if secret then "🔒" else "·"

/-- The kind of object that holds a variable, secret or not. -/
def origin (secret : Bool) : String := if secret then "Secret" else "ConfigMap"

/-- The colour of a variable, secret or not. -/
def colour (secret : Bool) : Colour := if secret then .yellow else .cyan

/-- What is shown for a secret. -/
def mask : String := "********"

/-- The sign of something that was done. -/
def done : String := "✓"

/-! ## Tables -/

/-- A cell in the middle of its column. -/
def centred (text : String) : Cell := ⟨text, .center⟩

/-- A cell at the left of its column. -/
def plain (text : String) : Cell := ⟨text, .left⟩

/-- Processor time and memory side by side. -/
def amounts (cpu : Cpu) (memory : Memory) : String := cpu.text ++ " / " ++ memory.text

/-- The row of an application. -/
def applicationRow (d : Defaults) : List Cell := [
  plain d.name,
  plain d.nameSpace,
  centred (Numeral.decimal d.resources.probePort.toNat),
  centred (Numeral.decimal d.resources.replicaCount.toNat),
  centred (amounts d.resources.requestCpu d.resources.requestMemory),
  centred (amounts d.resources.limitCpu d.resources.limitMemory),
  centred (Numeral.decimal d.secretKeys.length),
  plain d.imageTagKey]

/-- The table of applications. -/
def applications (all : List Defaults) : String :=
  if all.isEmpty then "No applications defined"
  else
    let table : Table := {
      header := [
        plain "APPLICATION", plain "NAMESPACE", centred "PORT", centred "REPLICAS",
        centred "REQUESTS", centred "LIMITS", centred "SECRETS", plain "IMAGE TAG VARIABLE"]
      rows := all.map applicationRow }
    "╭─ Applications [" ++ Numeral.decimal all.length ++ " apps] ─╮\n" ++ table.render ++ "\n"

/-- The row of a variable. -/
def variableRow (name : String) (setting : Setting) : List Cell := [
  plain name,
  plain (if setting.isSecret then mask else setting.text),
  plain (icon setting.isSecret ++ " " ++ origin setting.isSecret)]

/-- The tables of a configuration: what is fixed, and the variables. -/
def configuration (c : AppConfig) (e : Environment) : String :=
  let r := c.resources
  let summary : Table := {
    rows := [
      [plain "Application", plain c.name],
      [plain "Namespace", plain c.nameSpace],
      [plain "Environment", plain e.name],
      [plain "Image", plain c.image],
      [plain "Replicas", plain (Numeral.decimal r.replicaCount.toNat)],
      [plain "Requests",
        plain ("cpu " ++ r.requestCpu.text ++ " / memory " ++ r.requestMemory.text)],
      [plain "Limits", plain ("cpu " ++ r.limitCpu.text ++ " / memory " ++ r.limitMemory.text)],
      [plain "Listen", plain (r.host ++ ":" ++ Numeral.decimal r.probePort.toNat)]] }
  let settings : Table := {
    header := [plain "VARIABLE", plain "VALUE", plain "SOURCE"]
    rows := c.settings.entries.map fun entry => variableRow entry.1 entry.2 }
  summary.render ++ "\n" ++ settings.render ++ "\n"

/-- The word for what was done. -/
def status : Report → String
  | .rendered _ => "rendered"
  | .applied _ => "applied"

/-- The table of what a release did. -/
def released (all : List Released) : String :=
  let table : Table := {
    header := [plain "APPLICATION", centred "STATUS", plain "RESOURCES"]
    rows := all.map fun r => [
      plain r.application,
      plain (done ++ " " ++ status r.report),
      plain (Text.joinWith "\n" r.report.items)] }
  table.render

end AppRelease.Display
