import AppRelease.Yaml.Value

/-!
# Values as records

Program: a `Shape` names the fields of a record and says how each is taken from a value.
`Shape.fill` takes the entries of a mapping in their order, then sees whether a field is missing.
Keys without a field do not matter. Tags do not matter either, except for names and for what may be
missing.
-/

namespace AppRelease.Yaml

/-- Why a value has not the shape that was asked for. -/
inductive ShapeFault where
  | wrongKind (found : Found) (expected : String)
  | missing (field : String)
  | repeated (field : String)
  | unknownName (name expected : String)
  deriving DecidableEq, Repr

/-- The wording of that. -/
def ShapeFault.message : ShapeFault → String
  | .wrongKind found expected => found.insteadOf expected
  | .missing field => "missing field `" ++ field ++ "`"
  | .repeated field => "duplicate field `" ++ field ++ "`"
  | .unknownName name expected => AppRelease.unknownName name expected

namespace Value

/-- The value inside its tags. -/
def untagged : Value → Value
  | .tagged _ value => value.untagged
  | value => value

/-- A text. -/
def asText (value : Value) : Except ShapeFault String :=
  match value.untagged with
  | .text s => .ok s
  | other => .error (.wrongKind other.found "a string")

/-- A truth value. -/
def asBoolean (value : Value) : Except ShapeFault Bool :=
  match value.untagged with
  | .boolean b => .ok b
  | other => .error (.wrongKind other.found "a boolean")

/-- The items of a sequence; nothing has none. -/
def asList {α : Type} (item : Value → Except ShapeFault α) (value : Value) :
    Except ShapeFault (List α) :=
  match value.untagged with
  | .sequence items => items.mapM item
  | .nothing => .ok []
  | other => .error (.wrongKind other.found "a sequence")

/-- The entries of a mapping of texts; nothing has none. -/
def asTexts (value : Value) : Except ShapeFault (List (String × String)) :=
  match value.untagged with
  | .mapping entries => entries.mapM fun (key, value) => return (← key.asText, ← value.asText)
  | .nothing => .ok []
  | other => .error (.wrongKind other.found "a map")

/-- A value that may be missing. -/
def asOptional {α : Type} (read : Value → Except ShapeFault α) : Value →
    Except ShapeFault (Option α)
  | .nothing => .ok none
  | value => (read value).map some

/-- One of some names, as a text or as a tag of nothing. -/
def asName (names : List String) : Value → Except ShapeFault String
  | .text name => choose name
  | .tagged name value => do
    let name ← choose name
    match value.untagged with
    | .nothing => return name
    | other => throw (.wrongKind other.found "unit")
  | other => .error (.wrongKind other.found "a Value::Tag enum")
where
  /-- A name that is one of them. -/
  choose (name : String) : Except ShapeFault String :=
    if name ∈ names then .ok name else .error (.unknownName name (namesInWords names))

end Value

/-- How a field is taken from a value. -/
abbrev RecordField (σ : Type) := Value → σ → Except ShapeFault σ

/-- A field that is looked at and then left out. -/
def RecordField.unused {σ α : Type} (read : Value → Except ShapeFault α) : RecordField σ :=
  fun value record => do
    let _ ← read value
    return record

/-- A record that can be taken from a mapping. -/
structure Shape (σ : Type) where
  name : String
  fields : List (String × RecordField σ)
  required : List String := []

namespace Shape

variable {σ : Type}

/-- Takes the fields that entries have, in the order of the entries. -/
def fillEntries (shape : Shape σ) :
    List (Value × Value) → (seen : List String) → σ → Except ShapeFault (List String × σ)
  | [], seen, record => .ok (seen, record)
  | (key, value) :: rest, seen, record => do
    let key ← match key.untagged with
      | .text s => .ok s
      | other => .error (.wrongKind other.found "field identifier")
    match shape.fields.lookup key with
    | none => shape.fillEntries rest seen record
    | some field =>
      if key ∈ seen then throw (.repeated key)
      let record ← field value record
      shape.fillEntries rest (key :: seen) record

/-- Takes a record from a value; nothing is a mapping without entries. -/
def fill (shape : Shape σ) (initial : σ) (value : Value) : Except ShapeFault σ := do
  let entries ← match value.untagged with
    | .mapping entries => .ok entries
    | .nothing => .ok []
    | other => .error (.wrongKind other.found ("struct " ++ shape.name))
  let (seen, record) ← shape.fillEntries entries [] initial
  match shape.required.find? (· ∉ seen) with
  | some field => throw (.missing field)
  | none => return record

end Shape

end AppRelease.Yaml
