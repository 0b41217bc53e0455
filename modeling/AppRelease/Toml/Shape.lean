import AppRelease.Toml.Item

/-!
# Documents as settings

Program: a `Shape` names the fields of a record and says how each is taken from an item.
`Shape.fill` changes the fields that a table has and leaves the others; keys without a field do not
matter. A list fills the fields in their order. Crux: fields are filled one by one, so what a
document does not mention keeps the value it had.
-/

namespace AppRelease.Toml

/-- What an item is, for a fault. -/
def Item.found : Item → Found
  | .text s => .text s
  | .integer n => .integer n
  | .real x => .real x
  | .boolean b => .boolean b
  | .datetime => .map
  | .array _ => .sequence
  | .table _ _ => .map
  | .tables _ => .sequence

/-- A text. -/
def Item.asText : Item → Except Fault String
  | .text s => .ok s
  | other => .error (.wrongKind other.found "a string")

/-- A truth value. -/
def Item.asBoolean : Item → Except Fault Bool
  | .boolean b => .ok b
  | other => .error (.wrongKind other.found "a boolean")

/-- A record that can be filled from a document. -/
structure Shape (σ : Type) where
  name : String
  fields : List (String × (Item → σ → Except Fault σ))

namespace Shape

variable {σ : Type}

/-- Changes the field of a key; a key without a field changes nothing. -/
def set (shape : Shape σ) (key : String) (item : Item) (record : σ) : Except Fault σ :=
  match shape.fields.lookup key with
  | some field => field item record
  | none => .ok record

/-- Fills the fields that entries have, in the order of the entries. -/
def fillEntries (shape : Shape σ) : Entries → σ → Except Fault σ
  | [], record => .ok record
  | (key, item) :: rest, record => do
    let record ← shape.set key item record
    shape.fillEntries rest record

/-- Fills fields in their order from items. -/
def fillItems : List (String × (Item → σ → Except Fault σ)) → List Item → σ → Except Fault σ
  | (_, field) :: fields, item :: items, record => do
    let record ← field item record
    fillItems fields items record
  | _, _, record => .ok record

/-- Fills a record from an item. A date has no fields. -/
def fill (shape : Shape σ) : Item → σ → Except Fault σ
  | .table _ entries, record => shape.fillEntries entries record
  | .array items, record => fillItems shape.fields items record
  | .tables elements, record => fillItems shape.fields (elements.map (Item.table .header)) record
  | .datetime, record => .ok record
  | other, _ => .error (.wrongKind other.found ("struct " ++ shape.name))

end Shape

/-- One of some names, each for a value: a text, or a table with that name as its one key and
nothing below it. -/
def chooseNamed {α : Type} (names : List (String × α)) : Item → Except Fault α
  | .text name => choose name
  | .table _ [(name, below)] => do
    let value ← choose name
    if isEmpty below then return value else throw .misshapen
  | _ => .error .misshapen
where
  /-- The value of a name. -/
  choose (name : String) : Except Fault α :=
    match names.lookup name with
    | some value => .ok value
    | none => .error (.unknownVariant name (namesInWords (names.map (·.1))))
  /-- Whether nothing stands in a table or a list. -/
  isEmpty : Item → Bool
    | .array items => items.isEmpty
    | .table _ entries => entries.isEmpty
    | .tables elements => elements.isEmpty
    | _ => false

end AppRelease.Toml
