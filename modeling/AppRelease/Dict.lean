/-!
# Dictionaries in key order

Program: a dictionary is a list of entries whose keys ascend, so equal dictionaries are equal lists
and going through one visits the keys in order. `insert` replaces or adds, `get?` looks up, `ofList`
inserts from left to right, so the last entry of a key counts.

Specification: `get?_insert` says what an insertion does to every look-up, `ext_get?` that look-ups
decide the whole dictionary. Crux: the order of keys is a strict total order, so a key below the
head occurs nowhere in the tail.
-/

namespace AppRelease

/-- The keys of a list of entries ascend strictly. -/
def Ascending {α : Type} (entries : List (String × α)) : Prop :=
  entries.Pairwise fun a b => a.1 < b.1

/-- Puts a value under a key, at the place the key has in ascending order. -/
def insertEntry {α : Type} (key : String) (value : α) : List (String × α) → List (String × α)
  | [] => [(key, value)]
  | (k, v) :: rest =>
    if key < k then (key, value) :: (k, v) :: rest
    else if key = k then (key, value) :: rest
    else (k, v) :: insertEntry key value rest

/-- The value under a key. -/
def findEntry {α : Type} (key : String) : List (String × α) → Option α
  | [] => none
  | (k, v) :: rest => if key = k then some v else findEntry key rest

/-- An entry is in the list after an insertion when it is the new one or was there under another
key. -/
theorem mem_insertEntry {α : Type} {key : String} {value : α} {entries : List (String × α)}
    (sorted : Ascending entries) {entry : String × α} :
    entry ∈ insertEntry key value entries ↔
      entry = (key, value) ∨ (entry ∈ entries ∧ entry.1 ≠ key) := by
  induction entries with
  | nil => simp [insertEntry]
  | cons first rest ih =>
    obtain ⟨k, v⟩ := first
    have below : ∀ e ∈ rest, k < e.1 := (List.pairwise_cons.mp sorted).1
    have tail : Ascending rest := (List.pairwise_cons.mp sorted).2
    simp only [insertEntry]
    split
    · next lt =>
      constructor
      · intro h
        rcases List.mem_cons.mp h with h | h
        · exact .inl h
        · refine .inr ⟨h, ?_⟩
          rcases List.mem_cons.mp h with rfl | inRest
          · rintro rfl
            exact String.lt_irrefl _ lt
          · rintro rfl
            exact String.lt_irrefl _ (String.lt_trans lt (below _ inRest))
      · rintro (rfl | ⟨h, -⟩)
        · exact List.mem_cons_self
        · exact List.mem_cons_of_mem _ h
    · next notLt =>
      split
      · next eq =>
        subst eq
        constructor
        · intro h
          rcases List.mem_cons.mp h with h | h
          · exact .inl h
          · refine .inr ⟨List.mem_cons_of_mem _ h, ?_⟩
            intro same
            exact String.lt_irrefl _ (same ▸ below _ h)
        · rintro (rfl | ⟨h, ne⟩)
          · exact List.mem_cons_self
          · rcases List.mem_cons.mp h with rfl | h
            · exact absurd rfl ne
            · exact List.mem_cons_of_mem _ h
      · next ne =>
        rw [List.mem_cons, ih tail, List.mem_cons]
        constructor
        · rintro (rfl | rfl | ⟨h, other⟩)
          · exact .inr ⟨.inl rfl, Ne.symm ne⟩
          · exact .inl rfl
          · exact .inr ⟨.inr h, other⟩
        · rintro (rfl | ⟨rfl | h, other⟩)
          · exact .inr (.inl rfl)
          · exact .inl rfl
          · exact .inr (.inr ⟨h, other⟩)

/-- Of two different keys one is below the other. -/
theorem key_lt_of_not_lt_of_ne {a b : String} (notLt : ¬ a < b) (ne : a ≠ b) : b < a := by
  rcases String.le_total a b with le | le
  · exact absurd (String.le_antisymm le (String.not_lt.mp notLt)) ne
  · by_cases lt : b < a
    · exact lt
    · exact absurd (String.le_antisymm (String.not_lt.mp lt) le) ne

/-- An insertion keeps the order of keys. -/
theorem ascending_insertEntry {α : Type} {key : String} {value : α}
    {entries : List (String × α)} (sorted : Ascending entries) :
    Ascending (insertEntry key value entries) := by
  induction entries with
  | nil => simp [insertEntry, Ascending]
  | cons first rest ih =>
    obtain ⟨k, v⟩ := first
    have below : ∀ e ∈ rest, k < e.1 := (List.pairwise_cons.mp sorted).1
    have tail : Ascending rest := (List.pairwise_cons.mp sorted).2
    simp only [insertEntry]
    split
    · next lt =>
      refine List.pairwise_cons.mpr ⟨?_, sorted⟩
      intro e he
      rcases List.mem_cons.mp he with rfl | he
      · exact lt
      · exact String.lt_trans lt (below e he)
    · next notLt =>
      split
      · next eq =>
        subst eq
        exact List.pairwise_cons.mpr ⟨below, tail⟩
      · next ne =>
        refine List.pairwise_cons.mpr ⟨?_, ih tail⟩
        intro e he
        rcases (mem_insertEntry tail).mp he with rfl | ⟨he, -⟩
        · exact key_lt_of_not_lt_of_ne notLt ne
        · exact below e he

/-- A look-up after an insertion. -/
theorem findEntry_insertEntry {α : Type} (key k : String) (value : α)
    (entries : List (String × α)) :
    findEntry k (insertEntry key value entries) =
      if k = key then some value else findEntry k entries := by
  induction entries with
  | nil => simp [insertEntry, findEntry]
  | cons first rest ih =>
    obtain ⟨k', v⟩ := first
    simp only [insertEntry]
    split
    · simp [findEntry]
    · split
      · next eq =>
        subst eq
        by_cases h : k = key <;> simp [findEntry, h]
      · next ne =>
        simp only [findEntry, ih]
        by_cases h : k = k'
        · subst h
          simp [Ne.symm ne]
        · simp [h]

/-- Under ascending keys a look-up finds exactly the entries of the list. -/
theorem findEntry_eq_some_iff {α : Type} {entries : List (String × α)}
    (sorted : Ascending entries) {key : String} {value : α} :
    findEntry key entries = some value ↔ (key, value) ∈ entries := by
  induction entries with
  | nil => simp [findEntry]
  | cons first rest ih =>
    obtain ⟨k, v⟩ := first
    have below : ∀ e ∈ rest, k < e.1 := (List.pairwise_cons.mp sorted).1
    simp only [findEntry, List.mem_cons, Prod.mk.injEq]
    by_cases h : key = k
    · subst h
      simp only [↓reduceIte, Option.some.injEq, true_and]
      constructor
      · rintro rfl
        exact .inl rfl
      · rintro (rfl | mem)
        · rfl
        · exact absurd (below _ mem) (String.lt_irrefl _)
    · simp [h, ih (List.pairwise_cons.mp sorted).2]

/-- A dictionary: entries in ascending order of keys, by code points. -/
structure Dict (α : Type) where
  entries : List (String × α)
  sorted : Ascending entries

namespace Dict

variable {α β : Type}

instance [DecidableEq α] : DecidableEq (Dict α) := fun a b =>
  if h : a.entries = b.entries then
    .isTrue (by cases a; cases b; cases h; rfl)
  else
    .isFalse fun same => h (congrArg Dict.entries same)

/-- No entries. -/
def empty : Dict α := ⟨[], List.Pairwise.nil⟩

instance : EmptyCollection (Dict α) := ⟨empty⟩

instance : Inhabited (Dict α) := ⟨empty⟩

/-- Puts a value under a key; what was there before goes. -/
def insert (d : Dict α) (key : String) (value : α) : Dict α :=
  ⟨insertEntry key value d.entries, ascending_insertEntry d.sorted⟩

/-- The value under a key. -/
def get? (d : Dict α) (key : String) : Option α := findEntry key d.entries

/-- Whether there is a value under the key. -/
def contains (d : Dict α) (key : String) : Bool := (d.get? key).isSome

/-- The keys, ascending. -/
def keys (d : Dict α) : List String := d.entries.map (·.1)

/-- How many keys there are. -/
def size (d : Dict α) : Nat := d.entries.length

/-- No keys at all. -/
def isEmpty (d : Dict α) : Bool := d.entries.isEmpty

/-- Inserts the entries of a list from left to right. -/
def insertAll (d : Dict α) (entries : List (String × α)) : Dict α :=
  entries.foldl (fun d e => d.insert e.1 e.2) d

/-- The dictionary of a list of entries; the last entry of a key counts. -/
def ofList (entries : List (String × α)) : Dict α := empty.insertAll entries

/-- Every value replaced, every key kept. -/
def mapValues (f : String → α → β) (d : Dict α) : Dict β :=
  ⟨d.entries.map fun e => (e.1, f e.1 e.2), by
    have h := d.sorted
    simp only [Ascending, List.pairwise_map] at h ⊢
    exact h⟩

/-- The entries whose values satisfy `f`, replaced by what `f` gives. -/
def filterMap (f : α → Option β) (d : Dict α) : Dict β :=
  ⟨d.entries.filterMap fun e => (f e.2).map fun v => (e.1, v), by
    have h := d.sorted
    simp only [Ascending, List.pairwise_filterMap] at h ⊢
    refine h.imp ?_
    intro a b lt x hx y hy
    simp only [Option.map_eq_some_iff] at hx hy
    obtain ⟨_, -, rfl⟩ := hx
    obtain ⟨_, -, rfl⟩ := hy
    exact lt⟩

/-! ## Laws -/

@[simp] theorem get?_empty (key : String) : (empty : Dict α).get? key = none := rfl

/-- **What an insertion does to every look-up.** -/
@[simp] theorem get?_insert (d : Dict α) (key k : String) (value : α) :
    (d.insert key value).get? k = if k = key then some value else d.get? k :=
  findEntry_insertEntry key k value d.entries

theorem get?_eq_some_iff (d : Dict α) {key : String} {value : α} :
    d.get? key = some value ↔ (key, value) ∈ d.entries :=
  findEntry_eq_some_iff d.sorted

theorem mem_keys_iff (d : Dict α) {key : String} : key ∈ d.keys ↔ (d.get? key).isSome := by
  simp only [keys, List.mem_map, Prod.exists, exists_and_right, exists_eq_right,
    Option.isSome_iff_exists, get?_eq_some_iff]

/-- **Look-ups decide a dictionary.** -/
theorem ext_get? {a b : Dict α} (h : ∀ key, a.get? key = b.get? key) : a = b := by
  have mem : ∀ e, e ∈ a.entries ↔ e ∈ b.entries := by
    rintro ⟨k, v⟩
    rw [← get?_eq_some_iff, ← get?_eq_some_iff, h]
  have same : a.entries = b.entries := by
    have sa := a.sorted
    have sb := b.sorted
    generalize a.entries = as at mem sa
    generalize b.entries = bs at mem sb
    clear h
    induction as generalizing bs with
    | nil =>
      cases bs with
      | nil => rfl
      | cons e _ => exact absurd ((mem e).mpr List.mem_cons_self) (by simp)
    | cons x xs ih =>
      cases bs with
      | nil => exact absurd ((mem x).mp List.mem_cons_self) (by simp)
      | cons y ys =>
        obtain ⟨belowX, sortedX⟩ := List.pairwise_cons.mp sa
        obtain ⟨belowY, sortedY⟩ := List.pairwise_cons.mp sb
        have heads : x = y := by
          rcases List.mem_cons.mp ((mem x).mp List.mem_cons_self) with hx | hx
          · exact hx
          · rcases List.mem_cons.mp ((mem y).mpr List.mem_cons_self) with hy | hy
            · exact hy.symm
            · exact absurd (String.lt_trans (belowX y hy) (belowY x hx)) (String.lt_irrefl _)
        subst heads
        congr 1
        refine ih sortedX ys ?_ sortedY
        intro e
        constructor
        · intro he
          rcases List.mem_cons.mp ((mem e).mp (List.mem_cons_of_mem _ he)) with rfl | h
          · exact absurd (belowX _ he) (String.lt_irrefl _)
          · exact h
        · intro he
          rcases List.mem_cons.mp ((mem e).mpr (List.mem_cons_of_mem _ he)) with rfl | h
          · exact absurd (belowY _ he) (String.lt_irrefl _)
          · exact h
  cases a
  cases b
  cases same
  rfl

end Dict

end AppRelease
