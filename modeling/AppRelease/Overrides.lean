import AppRelease.Application.Template
import AppRelease.Dict
import AppRelease.Error
import AppRelease.Text.Cut

/-!
# Overrides

Program: `Overrides.parse` reads properties `key=value`, `Overrides.outcome` changes defaults by
them. Every override is judged on its own: those that are valid take effect, in ascending order of
keys, and those that are not are all named in one error. `Overrides.applyTo` goes on with the
defaults only without an error.

Crux: a key names a property, and a property with a value it accepts is a change of the defaults
(`Property.change`).
-/

namespace AppRelease

/-- What can be overridden. -/
inductive Property where
  | replicas
  | port
  | requestCpu
  | limitCpu
  | requestMemory
  | limitMemory
  | host
  | nameSpace
  | registry
  | env (name : String)
  deriving DecidableEq, Repr

namespace Property

/-- The properties with a key of their own. -/
def named : List (String × Property) := [
  ("app.replicas", replicas),
  ("app.port", port),
  ("app.request-cpu", requestCpu),
  ("app.limit-cpu", limitCpu),
  ("app.request-memory", requestMemory),
  ("app.limit-memory", limitMemory),
  ("app.host", host),
  ("app.namespace", nameSpace),
  ("app.registry", registry)]

/-- What stands before the name of a variable. -/
def envLead : String := "app.env."

/-- The property of a key: one with a key of its own, or a variable with a name. -/
def ofKey? (key : String) : Option Property :=
  match named.lookup key with
  | some property => some property
  | none =>
    match Text.after? envLead.toList key.toList with
    | some (c :: rest) => some (env (String.ofList (c :: rest)))
    | _ => none

/-- Reads a number up to `limit` as the value of a property. -/
def readNumber (limit : Nat) (value : String) : Except Override.Reason Nat :=
  match Numeral.readBounded limit value.toList with
  | .ok n => .ok n
  | .error cause => .error (.number cause)

/-- Reads a quantity as the value of a property. -/
def readQuantity {α : Type} (parsed : Except Quantity.Fault α) : Except Override.Reason α :=
  match parsed with
  | .ok q => .ok q
  | .error cause => .error (.quantity cause)

/-- The change that a property with a value makes to resources and to the rest of the defaults. -/
def change (value : String) : Property → Except Override.Reason (Defaults → Defaults)
  | replicas => do
    let n ← readNumber (UInt32.size - 1) value
    return fun d => { d with resources := { d.resources with replicaCount := UInt32.ofNat n } }
  | port => do
    let n ← readNumber (UInt16.size - 1) value
    return fun d => { d with resources := { d.resources with probePort := UInt16.ofNat n } }
  | requestCpu => do
    let q ← readQuantity (Cpu.parse value)
    return fun d => { d with resources := { d.resources with requestCpu := q } }
  | limitCpu => do
    let q ← readQuantity (Cpu.parse value)
    return fun d => { d with resources := { d.resources with limitCpu := q } }
  | requestMemory => do
    let q ← readQuantity (Memory.parse value)
    return fun d => { d with resources := { d.resources with requestMemory := q } }
  | limitMemory => do
    let q ← readQuantity (Memory.parse value)
    return fun d => { d with resources := { d.resources with limitMemory := q } }
  | host => .ok fun d => { d with resources := { d.resources with host := value } }
  | nameSpace => .ok fun d => { d with nameSpace := value }
  | registry => .ok fun d => { d with registry := value }
  | env name => .ok fun d => d.setEnv name (.literal value)

end Property

namespace Override

/-- The change that an override makes, or why it is not taken. -/
def change (key value : String) : Except Reason (Defaults → Defaults) :=
  match Property.ofKey? key with
  | some property => property.change value
  | none => .error .unknownProperty

/-- The defaults after one override: unchanged when it is not taken. -/
def step (d : Defaults) (entry : String × String) : Defaults :=
  match change entry.1 entry.2 with
  | .ok f => f d
  | .error _ => d

/-- Why an override is not taken. -/
def rejection? (entry : String × String) : Option Rejection :=
  match change entry.1 entry.2 with
  | .ok _ => none
  | .error reason => some ⟨entry.1, entry.2, reason⟩

end Override

/-- Overrides by key. -/
abbrev Overrides := Dict String

namespace Overrides

/-- Reads one property: a key that is not blank, an equals sign, and a value, both without the
blanks around them. -/
def parseOne (text : String) : Except Error (String × String) :=
  match Text.cutAt '=' text.toList with
  | none => .error (.invalid (.overrideText text))
  | some (key, value) =>
    let key := Text.trimChars key
    if key = [] then .error (.invalid (.overrideKey text))
    else .ok (String.ofList key, String.ofList (Text.trimChars value))

/-- Reads properties one by one; the last value of a key counts. -/
def parse (texts : List String) : Except Error Overrides := do
  let entries ← texts.mapM parseOne
  return Dict.ofList entries

/-- The overrides that are not taken, by ascending key. -/
def rejections (o : Overrides) : List Override.Rejection := o.entries.filterMap Override.rejection?

/-- The defaults after every override that is taken. -/
def effect (o : Overrides) (d : Defaults) : Defaults := o.entries.foldl Override.step d

/-- Accepts overrides that are all taken. -/
def check (o : Overrides) : Except Error Unit :=
  if o.rejections.isEmpty then .ok () else .error (.invalid (.overrides o.rejections))

/-- A call that changes defaults by overrides: what it answers, and the defaults that it leaves
behind. Those that are taken have changed them also when it fails. -/
def outcome (o : Overrides) (d : Defaults) : Except Error Unit × Defaults := (o.check, o.effect d)

/-- Changes defaults by overrides that are all taken. -/
def applyTo (o : Overrides) (d : Defaults) : Except Error Defaults := do
  (o.outcome d).1
  return (o.outcome d).2

end Overrides

end AppRelease
