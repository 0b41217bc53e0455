import AppRelease.Dict
import AppRelease.Error

/-!
# Variables of a run

Program: a source says of every name whether there is a variable and what it holds. `Requirements`
collects what a run needs, `Requirements.resolve` reads all of it and either gives the values,
trimmed, or every problem at once.

Crux: what becomes of one required variable (`Requirement.read`) does not depend on the others, so
problems, values and the environment are three views of one list.
-/

namespace AppRelease

/-- What a source holds under a name. -/
inductive Reading where
  | absent
  | undecodable (bytes : List UInt8)
  | text (s : String)
  deriving DecidableEq, Repr

/-- The reading of bytes: text when they are UTF-8. -/
def Reading.ofBytes (bytes : List UInt8) : Reading :=
  match Text.textOf? bytes with
  | some s => .text s
  | none => .undecodable bytes

/-- Where variables come from. -/
abbrev Source := String → Reading

/-- A source with finitely many variables. -/
def Source.ofDict (d : Dict Reading) : Source := fun name => (d.get? name).getD .absent

/-- What a required variable has to hold. -/
inductive Kind where
  | nonEmpty
  | environment
  deriving DecidableEq, Repr

/-- A variable that has to be there. -/
structure Requirement where
  name : String
  kind : Kind
  deriving DecidableEq, Repr

/-- What became of one variable. -/
inductive Outcome where
  | problem (p : Problem)
  | value (key text : String)
  | environment (e : Environment)
  | nothing
  deriving DecidableEq, Repr

namespace Outcome

/-- The problem, if there is one. -/
def problem? : Outcome → Option Problem
  | problem p => some p
  | _ => none

/-- The name and the value, if there is one. -/
def value? : Outcome → Option (String × String)
  | value key text => some (key, text)
  | _ => none

/-- The environment, if one was named. -/
def environment? : Outcome → Option Environment
  | environment e => some e
  | _ => none

end Outcome

/-- The problem of a variable that is not UTF-8. -/
def undecodableProblem (name : String) (bytes : List UInt8) : Problem :=
  .invalid name (Text.lossy bytes) "valid UTF-8"

/-- Reads a required variable. -/
def Requirement.read (source : Source) (r : Requirement) : Outcome :=
  match source r.name with
  | .absent => .problem (.missing r.name)
  | .undecodable bytes => .problem (undecodableProblem r.name bytes)
  | .text raw =>
    let text := Text.trim raw
    if text = "" then .problem (.empty r.name)
    else match r.kind with
      | .nonEmpty => .value r.name text
      | .environment =>
        match Environment.ofName? text with
        | some e => .environment e
        | none => .problem (Environment.unknown r.name text)

/-- Reads a variable that may be missing or blank. -/
def readOptional (source : Source) (name : String) : Outcome :=
  match source name with
  | .absent => .nothing
  | .undecodable bytes => .problem (undecodableProblem name bytes)
  | .text raw =>
    let text := Text.trim raw
    if text = "" then .nothing else .value name text

/-- The variables a run has read: its environment and the values by name. -/
structure Variables where
  environment : Environment
  values : Dict String
  deriving DecidableEq

namespace Variables

/-- The value of a variable. -/
def get? (v : Variables) (key : String) : Option String := v.values.get? key

/-- The value of a variable that has to be there. -/
def require (v : Variables) (key : String) : Except Error String :=
  match v.get? key with
  | some text => .ok text
  | none => .error (.configuration [.missing key])

/-- The image tag of an application. -/
def imageTag (v : Variables) (application : String) : Except Error String :=
  v.require (imageTagKey application)

end Variables

/-- What a run needs: names in the order of their first declaration, each once. -/
structure Requirements where
  required : List Requirement
  optional : List String
  deriving DecidableEq, Repr

namespace Requirements

/-- Every run needs to know its environment. -/
def initial : Requirements := ⟨[⟨Environment.key, .environment⟩], []⟩

/-- Adds a required variable; the first declaration of a name counts. -/
def addRequired (r : Requirements) (requirement : Requirement) : Requirements :=
  if r.required.any (fun other => other.name == requirement.name) then r
  else { r with required := r.required ++ [requirement] }

/-- Adds a variable that must not be blank. -/
def require (r : Requirements) (name : String) : Requirements := r.addRequired ⟨name, .nonEmpty⟩

/-- Adds the image tag of an application. -/
def requireImageTag (r : Requirements) (application : String) : Requirements :=
  r.require (imageTagKey application)

/-- Adds a variable that may be missing. -/
def optionally (r : Requirements) (name : String) : Requirements :=
  if name ∈ r.optional then r else { r with optional := r.optional ++ [name] }

/-- What became of every variable, required ones first. -/
def outcomes (r : Requirements) (source : Source) : List Outcome :=
  r.required.map (Requirement.read source) ++ r.optional.map (readOptional source)

/-- Reads everything, or tells every problem. -/
def resolve (r : Requirements) (source : Source) : Except Error Variables :=
  let outcomes := r.outcomes source
  let problems := outcomes.filterMap Outcome.problem?
  if problems.isEmpty then
    match (outcomes.filterMap Outcome.environment?).getLast? with
    | some environment => .ok ⟨environment, Dict.ofList (outcomes.filterMap Outcome.value?)⟩
    | none => .error (.configuration [.missing Environment.key])
  else .error (.configuration problems)

end Requirements

end AppRelease
