/-!
# Reading a command line

Program: a level of a command line has options and, at the top, commands. `Scan.run` goes through
the arguments of a level. An option takes its value from the same argument or from the next one; in
the second case it waits, and it is only settled when another known option comes or the level ends.
So an argument that is not known is reported before an option that still waits.

Crux: settling an option (`Scan.settle`) is the one place where a missing value, a repeated option
and a bad value are found, in this order.
-/

namespace AppRelease.Command

/-- Why a command line is not carried out as it stands. -/
inductive Usage where
  | displayHelp
  | displayVersion
  | displayHelpOnMissingCommand
  | missingCommand
  | invalidCommand
  | unknownArgument
  | missingRequiredArgument
  | invalidValue
  | argumentConflict
  | tooManyValues
  | invalidText
  deriving DecidableEq, Repr

/-- The name of the reason. -/
def Usage.name : Usage → String
  | .displayHelp => "DisplayHelp"
  | .displayVersion => "DisplayVersion"
  | .displayHelpOnMissingCommand => "DisplayHelpOnMissingArgumentOrSubcommand"
  | .missingCommand => "MissingSubcommand"
  | .invalidCommand => "InvalidSubcommand"
  | .unknownArgument => "UnknownArgument"
  | .missingRequiredArgument => "MissingRequiredArgument"
  | .invalidValue => "InvalidValue"
  | .argumentConflict => "ArgumentConflict"
  | .tooManyValues => "TooManyValues"
  | .invalidText => "InvalidUtf8"

/-- What an option does with its values. -/
inductive Action where
  | once
  | append
  | switch
  | stop (reason : Usage)
  deriving DecidableEq, Repr

/-- An option of a level. -/
structure Opt where
  id : String
  long : Option String := none
  short : Option Char := none
  action : Action := .once
  choices : List String := []
  deriving DecidableEq, Repr

/-- Whether an option takes a value. -/
def Opt.takesValue (o : Opt) : Bool :=
  match o.action with
  | .once => true
  | .append => true
  | .switch => false
  | .stop _ => false

/-- What was read of a level so far: options that were settled, with their values, and the option
that is not settled yet, with its value once it has one. -/
structure Scan where
  settled : List (String × List Char) := []
  pending : Option (Opt × Option (List Char)) := none
  deriving DecidableEq, Repr

namespace Scan

/-- Whether an option was given. -/
def has (s : Scan) (id : String) : Bool := s.settled.any fun v => v.1 == id

/-- The values of an option, in order. -/
def values (s : Scan) (id : String) : List String :=
  (s.settled.filter fun v => v.1 == id).map fun v => String.ofList v.2

/-- The value of an option that is given once at most. -/
def value? (s : Scan) (id : String) : Option String := (s.values id).head?

/-- Takes an option with its value, if it takes one. -/
def take (s : Scan) (o : Opt) (value : List Char) : Except Usage Scan :=
  match o.action with
  | .stop reason => .error reason
  | .append => .ok { s with settled := s.settled ++ [(o.id, value)] }
  | _ =>
    if s.has o.id then .error .argumentConflict
    else if o.choices.isEmpty || o.choices.contains (String.ofList value) then
      .ok { s with settled := s.settled ++ [(o.id, value)] }
    else .error .invalidValue

/-- Settles the option that is waiting. -/
def settle (s : Scan) : Except Usage Scan :=
  match s.pending with
  | none => .ok s
  | some (_, none) => .error .invalidValue
  | some (o, some value) => { s with pending := none }.take o value

/-- Whether an option waits for a value. -/
def awaits (s : Scan) : Bool :=
  match s.pending with
  | some (_, none) => true
  | _ => false

/-- Settles what waits and takes an option with a value from the same argument. -/
def takeAttached (s : Scan) (o : Opt) (value : List Char) : Except Usage Scan := do
  let s ← s.settle
  s.take o value

/-- Settles what waits and lets an option wait. -/
def await (s : Scan) (o : Opt) : Except Usage Scan := do
  let s ← s.settle
  return { s with pending := some (o, none) }

/-- An argument with a long name, after its two hyphens. -/
def takeLong (s : Scan) (options : List Opt) (argument : List Char) : Except Usage Scan :=
  let name := argument.takeWhile (· ≠ '=')
  let attached := match argument.dropWhile (· ≠ '=') with
    | _ :: value => some value
    | [] => none
  match options.find? fun o => o.long.any fun l => l.toList == name with
  | none => .error .unknownArgument
  | some o =>
    match attached with
    | some value => if o.takesValue then s.takeAttached o value else .error .tooManyValues
    | none => if o.takesValue then s.await o else s.takeAttached o []

/-- An argument with short names, after its hyphen. The first that takes a value takes the rest. -/
def takeShort (s : Scan) (options : List Opt) : List Char → Except Usage Scan
  | [] => .ok s
  | c :: rest =>
    match options.find? fun o => o.short == some c with
    | none => .error .unknownArgument
    | some o =>
      if o.takesValue then
        match rest with
        | [] => s.await o
        | '=' :: value => s.takeAttached o value
        | value => s.takeAttached o value
      else do
        let s ← s.takeAttached o []
        takeShort s options rest

/-- What ends a level: its arguments are used up, or a command comes with arguments of its own. -/
inductive Ending where
  | finished
  | command (name : String) (arguments : List String)
  deriving DecidableEq, Repr

/-- The reason for an argument that is neither an option nor a value. After two hyphens the name of
a command is no command. -/
def strayReason (commands : List String) (onlyValues : Bool) (argument : String) : Usage :=
  if commands.isEmpty || (onlyValues && commands.contains argument) then .unknownArgument
  else .invalidCommand

/-- Goes through the arguments of a level. After two hyphens nothing is an option. -/
def run (options : List Opt) (commands : List String) (onlyValues : Bool) (s : Scan) :
    List String → Except Usage (Scan × Ending)
  | [] => .ok (s, .finished)
  | argument :: rest =>
    if onlyValues then .error (strayReason commands true argument)
    else if !s.awaits && commands.contains argument then .ok (s, .command argument rest)
    else
      match argument.toList with
      | ['-', '-'] => run options commands true s rest
      | '-' :: '-' :: long => do
        let s ← s.takeLong options long
        run options commands false s rest
      | '-' :: c :: short => do
        let s ← s.takeShort options (c :: short)
        run options commands false s rest
      | value =>
        match s.pending with
        | some (o, none) =>
          run options commands false { s with pending := some (o, some value) } rest
        | _ => .error (strayReason commands false argument)

end Scan

end AppRelease.Command
