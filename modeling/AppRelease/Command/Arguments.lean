import AppRelease.Command.Usage
import AppRelease.Variables

/-!
# The command line

Program: `Invocation.parse` reads a command line as one of four commands. The file with the settings
of the project may be named before and after the command, or by a variable; what stands after the
command counts first, the variable last.
-/

namespace AppRelease.Command

/-! ## What a command line says -/

/-- Which applications a command is about. -/
structure Selection where
  apps : List String := []
  all : Bool := false
  deriving DecidableEq, Repr

/-- How a configuration is shown. -/
inductive Format where
  | table
  | yaml
  | json
  deriving DecidableEq, Repr

/-- The names of the ways to show a configuration. -/
def Format.named : List (String × Format) := [("table", .table), ("yaml", .yaml), ("json", .json)]

/-- What to do. -/
inductive Task where
  | render (selection : Selection) (properties : List String) (output : Option String)
  | apply (selection : Selection) (properties : List String) (kubeconfig context : Option String)
  | show (application : String) (format : Format) (properties : List String)
  | list
  deriving DecidableEq, Repr

/-- What to do and with which settings. -/
structure Invocation where
  configFile : Option String
  task : Task
  deriving DecidableEq, Repr

/-! ## Its grammar -/

/-- Asks for help. -/
def helpOption : Opt :=
  { id := "help", long := some "help", short := some 'h', action := .stop .displayHelp }

/-- Names the file with the settings of the project. -/
def configOption : Opt := { id := "config-file", long := some "config-file" }

/-- The variable that names that file. -/
def configVariable : String := "APPCONFIG_FILE"

/-- Names applications. -/
def appsOption : Opt := { id := "app", long := some "app", short := some 'a', action := .append }

/-- Takes all applications. -/
def allOption : Opt := { id := "all", long := some "all", action := .switch }

/-- Overrides properties. -/
def propertiesOption : Opt := { id := "property", short := some 'D', action := .append }

/-- The options before a command. -/
def topOptions : List Opt := [
  configOption, helpOption,
  { id := "version", long := some "version", short := some 'V', action := .stop .displayVersion }]

/-- The options of each command. -/
def commandOptions : List (String × List Opt) := [
  ("render", [appsOption, allOption, propertiesOption,
    { id := "output", long := some "output", short := some 'o' }]),
  ("apply", [appsOption, allOption, propertiesOption,
    { id := "kubeconfig", long := some "kubeconfig" },
    { id := "context", long := some "context" }]),
  ("show", [{ appsOption with action := .once },
    { id := "format", long := some "format", short := some 'f',
      choices := Format.named.map (·.1) },
    propertiesOption]),
  ("list", [])]

/-- The names of the commands, with the one that explains the others. -/
def commandNames : List String := commandOptions.map (·.1) ++ ["help"]

/-! ## Reading it -/

/-- Ends a level: settles its last option and looks at the variable if the level names no file. -/
def finish (s : Scan) (variableReading : Reading) : Except Usage Scan := do
  let s ← s.settle
  match variableReading with
  | .undecodable _ => if s.has configOption.id then return s else throw .invalidText
  | _ => return s

/-- The applications that a level selects: all of them, or those that it names. -/
def Scan.selection (s : Scan) : Except Usage Selection :=
  if s.has "all" && s.has "app" then .error .argumentConflict
  else .ok ⟨s.values "app", s.has "all"⟩

/-- The way to show a configuration. -/
def Scan.format (s : Scan) : Format :=
  ((s.value? "format").bind fun name => Format.named.lookup name).getD .table

/-- The task of a command, from what was read of its options. -/
def Scan.task (s : Scan) (command : String) : Except Usage Task :=
  let properties := s.values "property"
  if command = "render" then do
    return .render (← s.selection) properties (s.value? "output")
  else if command = "apply" then do
    return .apply (← s.selection) properties (s.value? "kubeconfig") (s.value? "context")
  else if command = "show" then
    match s.value? "app" with
    | some application => .ok (.show application s.format properties)
    | none => .error .missingRequiredArgument
  else .ok .list

/-- The reason why asking for help on commands is not carried out: help is shown, unless it is asked
for something that is no command. -/
def helpReason (asked : List String) : Usage :=
  match asked with
  | [] => .displayHelp
  | [command] => if commandNames.contains command then .displayHelp else .invalidCommand
  | _ => .invalidCommand

/-- Reads the arguments of a command: its task and the file that it names. -/
def parseTask (command : String) (arguments : List String) (variableReading : Reading) :
    Except Usage (Task × Option String) := do
  let options := ((commandOptions.lookup command).getD []) ++ [configOption, helpOption]
  let (s, _) ← Scan.run options [] false {} arguments
  let s ← finish s variableReading
  let task ← s.task command
  return (task, s.value? configOption.id)

/-- The text of a reading. -/
def readingText? : Reading → Option String
  | .text s => some s
  | _ => none

/-- Reads a command line. -/
def Invocation.parse (arguments : List String) (variableReading : Reading) :
    Except Usage Invocation := do
  let (s, ending) ← Scan.run topOptions commandNames false {} arguments
  match ending with
  | .finished =>
    let s ← finish s variableReading
    if s.settled.isEmpty && variableReading = .absent then throw .displayHelpOnMissingCommand
    else throw .missingCommand
  | .command name rest =>
    if name = "help" then throw (helpReason rest)
    else
      let (task, inner) ← parseTask name rest variableReading
      let s ← finish s variableReading
      return ⟨(inner.or (s.value? configOption.id)).or (readingText? variableReading), task⟩

end AppRelease.Command
