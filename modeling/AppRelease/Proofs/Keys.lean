import AppRelease.Toml.Reader

/-!
# Keys of a document

Program: `readDocument` reads the lines of a document one after the other. A line puts an item into
the table that is being filled, or it moves that table to its place and starts another one.

Specification: `nodup_keys_of_readDocument`. No key stands twice at the top of a document.

1. **Entries.** A key is added only where it is not there yet, and otherwise entries are replaced or
   taken out.
2. **One line.** Whatever is done at the end of a path of keys, at the top a table is added or
   replaced (`nodup_keys_descend`). So the keys stay distinct when an item is put in and when a
   table is moved to its place.
3. **The crux (`Draft.Distinct`).** The table that is being filled is the top of the document up to
   the first header, and has a place of its own below it from there on. Its keys matter only in the
   first case.
-/

namespace AppRelease.Toml

/-! ## Entries -/

namespace Entries

/-- The keys of entries, in order. -/
def keys (entries : Entries) : List String := entries.map (·.1)

variable {entries entries' : Entries} {key : String} {item : Item}

theorem not_mem_keys_of_get? (h : entries.get? key = none) : key ∉ entries.keys := by
  rw [get?, List.lookup_eq_none_iff] at h
  rw [keys, List.mem_map]
  rintro ⟨entry, hentry, rfl⟩
  exact absurd (h entry hentry) (by simp)

theorem nodup_keys_append (hkeys : entries.keys.Nodup) (h : entries.get? key = none) (item : Item) :
    (entries ++ [(key, item)] : Entries).keys.Nodup := by
  have happend : (entries ++ [(key, item)] : Entries).keys = entries.keys ++ [key] :=
    List.map_append
  rw [happend, List.nodup_append]
  refine ⟨hkeys, by simp, ?_⟩
  rintro a ha b hb rfl
  rw [List.mem_singleton] at hb
  exact not_mem_keys_of_get? h (hb ▸ ha)

theorem keys_replace (entries : Entries) (key : String) (item : Item) :
    (entries.replace key item).keys = entries.keys := by
  rw [keys, replace, List.map_map]
  apply List.map_congr_left
  rintro ⟨k, other⟩ -
  by_cases hk : k = key <;> simp [hk]

theorem nodup_keys_erase (hkeys : entries.keys.Nodup) (key : String) :
    (entries.erase key).keys.Nodup :=
  hkeys.sublist (List.filter_sublist.map _)

theorem nodup_keys_add? (hkeys : entries.keys.Nodup) (h : entries.add? key item = some entries') :
    entries'.keys.Nodup := by
  rw [add?] at h
  split at h
  next => exact absurd h (by simp)
  next hnone =>
    cases h
    exact nodup_keys_append hkeys (by simpa using hnone) item

end Entries

/-! ## One line -/

section Steps

variable {α : Type} {byKey : Bool} {finish : Origin → Entries → Option (Entries × α)}
  {path : List String} {origin : Origin} {entries entries' : Entries} {result : α}

/-- Going down a path keeps the keys at the top distinct, if what is done at its end does. -/
theorem nodup_keys_descend
    (hfinish : ∀ {origin entries entries' result}, entries.keys.Nodup →
      finish origin entries = some (entries', result) → entries'.keys.Nodup)
    (hkeys : entries.keys.Nodup)
    (h : descend byKey finish path origin entries = some (entries', result)) :
    entries'.keys.Nodup := by
  cases path with
  | nil => exact hfinish hkeys h
  | cons key path =>
    rw [descend] at h
    split at h
    next hnone =>
      obtain ⟨inner, -, heq⟩ := Option.bind_eq_some_iff.mp h
      cases heq
      exact Entries.nodup_keys_append hkeys hnone _
    next =>
      split at h
      next => exact absurd h (by simp)
      next =>
        obtain ⟨inner, -, heq⟩ := Option.bind_eq_some_iff.mp h
        cases heq
        rwa [Entries.keys_replace]
    next =>
      split at h
      next => exact absurd h (by simp)
      next =>
        obtain ⟨inner, -, heq⟩ := Option.bind_eq_some_iff.mp h
        cases heq
        rwa [Entries.keys_replace]
    next => exact absurd h (by simp)

theorem nodup_keys_insertAt {key : String} {item : Item} (hkeys : entries.keys.Nodup)
    (h : insertAt path key item origin entries = some entries') : entries'.keys.Nodup := by
  obtain ⟨⟨out, ⟨⟩⟩, hdescend, heq⟩ := Option.bind_eq_some_iff.mp h
  cases heq
  refine nodup_keys_descend ?_ hkeys hdescend
  intro origin entries entries' result hkeys hfinish
  split at hfinish
  next => exact absurd hfinish (by simp)
  next =>
    obtain ⟨added, hadd, heq⟩ := Option.map_eq_some_iff.mp hfinish
    cases heq
    exact Entries.nodup_keys_add? hkeys hadd

end Steps

/-! ## A document while it is read -/

namespace Draft

/-- No key stands twice in what is finished, nor in the table that is being filled when that is the
top of the document. -/
structure Distinct (d : Draft) : Prop where
  root : d.root.keys.Nodup
  current : d.path = [] → d.current.keys.Nodup

variable {d d' : Draft} {path : List String} {key : String} {item : Item} {entries : Entries}

theorem Distinct.insert (hd : d.Distinct) (h : d.insert path key item = some d') : d'.Distinct := by
  obtain ⟨current, hinsert, heq⟩ := Option.bind_eq_some_iff.mp h
  cases heq
  exact ⟨hd.root, fun hpath => nodup_keys_insertAt (hd.current hpath) hinsert⟩

/-- A table that is moved to its place leaves the keys at the top distinct. -/
theorem Distinct.close (hd : d.Distinct) (h : d.close = some entries) : entries.keys.Nodup := by
  rw [Draft.close] at h
  split at h
  next hlast =>
    cases h
    exact hd.current (List.getLast?_eq_none_iff.mp hlast)
  next key hlast =>
    obtain ⟨⟨out, ⟨⟩⟩, hdescend, heq⟩ := Option.bind_eq_some_iff.mp h
    cases heq
    refine nodup_keys_descend ?_ hd.root hdescend
    intro origin entries entries' result hkeys hfinish
    split at hfinish
    next =>
      split at hfinish
      next hnone =>
        cases hfinish
        exact Entries.nodup_keys_append hkeys hnone _
      next =>
        cases hfinish
        rwa [Entries.keys_replace]
      next => exact absurd hfinish (by simp)
    next =>
      obtain ⟨added, hadd, heq⟩ := Option.map_eq_some_iff.mp hfinish
      cases heq
      exact Entries.nodup_keys_add? hkeys hadd

/-- The table of a header is not the top of the document. -/
theorem Distinct.openTable (hd : d.Distinct) (h : d.openTable path = some d') : d'.Distinct := by
  obtain ⟨root, hclose, h⟩ := Option.bind_eq_some_iff.mp h
  obtain ⟨key, hlast, h⟩ := Option.bind_eq_some_iff.mp h
  obtain ⟨⟨out, current⟩, hdescend, heq⟩ := Option.bind_eq_some_iff.mp h
  cases heq
  refine ⟨nodup_keys_descend ?_ (hd.close hclose) hdescend, ?_⟩
  · intro origin entries entries' result hkeys hfinish
    split at hfinish
    next =>
      cases hfinish
      exact hkeys
    next =>
      cases hfinish
      exact Entries.nodup_keys_erase hkeys key
    next => exact absurd hfinish (by simp)
  · rintro rfl
    exact absurd hlast (by simp)

theorem Distinct.openElement (hd : d.Distinct) (h : d.openElement path = some d') :
    d'.Distinct := by
  obtain ⟨root, hclose, h⟩ := Option.bind_eq_some_iff.mp h
  obtain ⟨key, hlast, h⟩ := Option.bind_eq_some_iff.mp h
  obtain ⟨⟨out, ⟨⟩⟩, hdescend, heq⟩ := Option.bind_eq_some_iff.mp h
  cases heq
  refine ⟨nodup_keys_descend ?_ (hd.close hclose) hdescend, ?_⟩
  · intro origin entries entries' result hkeys hfinish
    split at hfinish
    next hnone =>
      cases hfinish
      exact Entries.nodup_keys_append hkeys hnone _
    next =>
      cases hfinish
      exact hkeys
    next => exact absurd hfinish (by simp)
  · rintro rfl
    exact absurd hlast (by simp)

/-- **Over all lines** the keys stay distinct. -/
theorem Distinct.readLines {fuel : Nat} {cs : List Char} (hd : d.Distinct)
    (h : Toml.readLines fuel d cs = some d') : d'.Distinct := by
  induction fuel generalizing d cs with
  | zero => exact absurd h (by simp [Toml.readLines])
  | succ fuel ih =>
    rw [Toml.readLines] at h
    split at h
    next =>
      cases h
      exact hd
    next =>
      obtain ⟨⟨path, rest⟩, -, h⟩ := Option.bind_eq_some_iff.mp h
      obtain ⟨next, hopen, h⟩ := Option.bind_eq_some_iff.mp h
      exact ih (hd.openElement hopen) h
    next =>
      obtain ⟨⟨path, rest⟩, -, h⟩ := Option.bind_eq_some_iff.mp h
      obtain ⟨next, hopen, h⟩ := Option.bind_eq_some_iff.mp h
      exact ih (hd.openTable hopen) h
    next =>
      obtain ⟨rest, -, h⟩ := Option.bind_eq_some_iff.mp h
      exact ih hd h
    next => exact ih hd h
    next => exact ih hd h
    next =>
      obtain ⟨⟨⟨path, value⟩, rest⟩, -, h⟩ := Option.bind_eq_some_iff.mp h
      obtain ⟨rest, -, h⟩ := Option.bind_eq_some_iff.mp h
      obtain ⟨key, -, h⟩ := Option.bind_eq_some_iff.mp h
      obtain ⟨next, hinsert, h⟩ := Option.bind_eq_some_iff.mp h
      exact ih (hd.insert hinsert) h

end Draft

/-- **No key stands twice at the top of a document.** -/
theorem nodup_keys_of_readDocument {text : String} {entries : Entries}
    (h : readDocument text = some entries) : entries.keys.Nodup := by
  obtain ⟨d, hlines, hclose⟩ := Option.bind_eq_some_iff.mp h
  have hstart : Draft.Distinct {} := ⟨List.nodup_nil, fun _ => List.nodup_nil⟩
  exact (hstart.readLines hlines).close hclose

end AppRelease.Toml
