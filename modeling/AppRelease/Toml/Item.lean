import AppRelease.Found

/-!
# TOML documents

Data: a document is a tree of items. A table remembers how it came to be, because that decides
whether it may be opened again: by a header, as the parent of another header, by a dotted key, or
inline.

Program: `descend` goes down a path of keys, makes the tables that are missing, and changes what it
finds there. Keys keep the order in which they were first written.
-/

namespace AppRelease.Toml

/-- How a table came to be. -/
inductive Origin where
  | header
  | parent
  | dotted
  | inline
  deriving DecidableEq, Repr

/-- A part of a document. -/
inductive Item where
  | text (s : String)
  | integer (n : Int)
  | real (x : Decimal.Real)
  | boolean (b : Bool)
  | datetime
  | array (items : List Item)
  | table (origin : Origin) (entries : List (String × Item))
  | tables (elements : List (List (String × Item)))
  deriving Inhabited, Repr

/-- Keys with what stands under them, in order. -/
abbrev Entries := List (String × Item)

/-- What stands under a key. -/
def Entries.get? (entries : Entries) (key : String) : Option Item := entries.lookup key

/-- Replaces what stands under a key that is there. -/
def Entries.replace (entries : Entries) (key : String) (item : Item) : Entries :=
  entries.map fun entry => if entry.1 = key then (key, item) else entry

/-- Takes a key out. -/
def Entries.erase (entries : Entries) (key : String) : Entries :=
  entries.filter fun entry => entry.1 ≠ key

/-- Adds a key that is not there yet. -/
def Entries.add? (entries : Entries) (key : String) (item : Item) : Option Entries :=
  if (entries.get? key).isSome then none else some (entries ++ [(key, item)])

/-- Whether a table was only implied so far. -/
def Origin.isImplied : Origin → Bool
  | parent => true
  | dotted => true
  | header => false
  | inline => false

/-- Goes down a path of keys and does `finish` to the entries there. Missing tables are made, by a
dotted key or as parents of a header. A dotted key enters only tables that were implied so far,
nothing enters an inline table, and of a list of tables the last one is entered. -/
def descend {α : Type} (byKey : Bool) (finish : Origin → Entries → Option (Entries × α)) :
    List String → Origin → Entries → Option (Entries × α)
  | [], origin, entries => finish origin entries
  | key :: path, _, entries =>
    match entries.get? key with
    | none => do
      let fresh : Origin := if byKey then .dotted else .parent
      let (inner, result) ← descend byKey finish path fresh []
      return (entries ++ [(key, .table fresh inner)], result)
    | some (.table origin inner) =>
      if origin = .inline || (byKey && !origin.isImplied) then none
      else do
        let (inner, result) ← descend byKey finish path origin inner
        return (entries.replace key (.table origin inner), result)
    | some (.tables elements) =>
      match elements.reverse with
      | [] => none
      | last :: before => do
        let (inner, result) ← descend byKey finish path .header last
        return (entries.replace key (.tables (before.reverse ++ [inner])), result)
    | some _ => none

/-- Puts an item under a path of keys. A table that a dotted key fills has to be made by dotted
keys. -/
def insertAt (path : List String) (key : String) (item : Item) (origin : Origin)
    (entries : Entries) :
    Option Entries := do
  let (entries, _) ← descend true (fun origin entries =>
    if (origin == .dotted) == path.isEmpty then none
    else (entries.add? key item).map fun entries => (entries, ())) path origin entries
  return entries

/-! ## A document while it is read -/

/-- What was read so far: the finished part, and the table that is being filled. -/
structure Draft where
  root : Entries := []
  current : Entries := []
  path : List String := []
  isElement : Bool := false

namespace Draft

/-- Puts an item into the current table. -/
def insert (d : Draft) (path : List String) (key : String) (item : Item) : Option Draft := do
  let current ← insertAt path key item .header d.current
  return { d with current }

/-- Moves the current table to its place. -/
def close (d : Draft) : Option Entries :=
  match d.path.getLast? with
  | none => some d.current
  | some key => do
    let (root, _) ← descend false (fun _ entries =>
      if d.isElement then
        match entries.get? key with
        | none => some (entries ++ [(key, .tables [d.current])], ())
        | some (.tables elements) =>
          some (Entries.replace entries key (.tables (elements ++ [d.current])), ())
        | some _ => none
      else (entries.add? key (.table .header d.current)).map fun entries => (entries, ()))
      d.path.dropLast .header d.root
    return root

/-- Starts the table of a header. Only a table that was implied as a parent may be there already; it
keeps what it holds. -/
def openTable (d : Draft) (path : List String) : Option Draft := do
  let root ← d.close
  let key ← path.getLast?
  let (root, current) ← descend false (fun _ entries =>
    match entries.get? key with
    | none => some (entries, [])
    | some (.table .parent inner) => some (Entries.erase entries key, inner)
    | some _ => none) path.dropLast .header root
  return { root, current, path, isElement := false }

/-- Starts a further element of a list of tables. -/
def openElement (d : Draft) (path : List String) : Option Draft := do
  let root ← d.close
  let key ← path.getLast?
  let (root, _) ← descend false (fun _ entries =>
    match entries.get? key with
    | none => some (entries ++ [(key, .tables [])], ())
    | some (.tables _) => some (entries, ())
    | some _ => none) path.dropLast .header root
  return { root, current := [], path, isElement := true }

end Draft

end AppRelease.Toml
