import AppRelease.Proofs.Laws
import AppRelease.Toml.Shape

/-!
# Records that are filled from a document

Program: `Shape.fill` changes the fields of a record that a document has and leaves the others.

Specification: a place in a record has the value that the document says, and without one the value
it had before (`Layered`).

1. **One step.** A place in a record belongs to one key: the field of the key sets it, and no other
   field touches it (`Shape.Fills`). So an entry sets the place or leaves it
   (`Shape.Fills.layered_set`).
2. **A run.** Over all entries the last one of the key counts (`Shape.Fills.layered_fillEntries`),
   over a list the one at the place of the field (`Shape.Fills.layered_fillItems`).
3. **The crux (`Shape.Fills.layered_part`).** A part is filled from the first values of its own, not
   from nothing. So a setting in a part has its first value in two cases, without the part and
   without the setting in it, and both read as one: the document says nothing about the setting
   (`inPart?`).
4. **All places.** A `Slot` is a place with its key, and how items are read for it. Where the fields
   of a shape are those of slots that are apart from each other (`Shape.HasSlots`), each place is
   layered, and the record is filled exactly when each entry can be read for its place
   (`Shape.HasSlots.exists_fillEntries_iff`).
-/

namespace AppRelease.Toml

/-! ## What a document says -/

/-- A value over a first one: what an item says, if there is one, and the first value otherwise. -/
def Layered {β : Type} (means : Item → β → Prop) (first : β) (item? : Option Item)
    (value : β) : Prop :=
  (∃ item, item? = some item ∧ means item value) ∨ item? = none ∧ value = first

/-- The item is this text. -/
def IsText (item : Item) (s : String) : Prop := item = .text s

/-- The item is this truth value. -/
def IsFlag (item : Item) (b : Bool) : Prop := item = .boolean b

theorem Layered.unique {β : Type} {means : Item → β → Prop} {first value value' : β}
    {item? : Option Item} (hmeans : ∀ item v v', means item v → means item v' → v = v')
    (h : Layered means first item? value) (h' : Layered means first item? value') :
    value = value' := by
  rcases h with ⟨item, rfl, hvalue⟩ | ⟨rfl, rfl⟩
  · rcases h' with ⟨item', hsame, hvalue'⟩ | ⟨hnone, -⟩
    · cases hsame
      exact hmeans item _ _ hvalue hvalue'
    · exact absurd hnone (by simp)
  · rcases h' with ⟨item', hsome, -⟩ | ⟨-, rfl⟩
    · exact absurd hsome (by simp)
    · rfl

theorem IsText.unique (item : Item) (s s' : String) (h : IsText item s)
    (h' : IsText item s') : s = s' :=
  Item.text.inj (h.symm.trans h')

theorem IsFlag.unique (item : Item) (b b' : Bool) (h : IsFlag item b)
    (h' : IsFlag item b') : b = b' :=
  Item.boolean.inj (h.symm.trans h')

/-! ## What items are read as -/

theorem mem_of_lookup {α : Type} {key : String} {value : α} {entries : List (String × α)}
    (h : entries.lookup key = some value) : (key, value) ∈ entries := by
  obtain ⟨before, after, rfl, -⟩ := List.lookup_eq_some_iff.mp h
  simp

theorem asText_eq_ok {item : Item} {s : String} (h : item.asText = .ok s) : IsText item s := by
  cases item with
  | text t =>
    cases h
    rfl
  | _ => exact absurd h (by simp [Item.asText])

theorem asBoolean_eq_ok {item : Item} {b : Bool} (h : item.asBoolean = .ok b) : IsFlag item b := by
  cases item with
  | boolean t =>
    cases h
    rfl
  | _ => exact absurd h (by simp [Item.asBoolean])

/-! ## Places in a record -/

namespace Shape

variable {σ β : Type} {shape : Shape σ} {key : String} {means : Item → β → Prop} {get : σ → β}

/-- The keys of the fields. -/
def names (shape : Shape σ) : List String := shape.fields.map (·.1)

theorem lookup_fields_eq_none_iff : shape.fields.lookup key = none ↔ key ∉ shape.names := by
  rw [List.lookup_eq_none_iff, names, List.mem_map]
  constructor
  · rintro hnone ⟨entry, hentry, rfl⟩
    exact absurd (hnone entry hentry) (by simp)
  · intro hnot entry hentry
    exact bne_iff_ne.mpr fun heq => hnot ⟨entry, hentry, heq.symm⟩

/-- A place in a record belongs to a key: its field sets the place to what the item says, and all
other fields leave it. -/
structure Fills (fields : List (String × (Item → σ → Except Fault σ))) (key : String)
    (means : Item → β → Prop) (get : σ → β) : Prop where
  own : ∀ field, (key, field) ∈ fields → ∀ item r r', field item r = .ok r' → means item (get r')
  others : ∀ other field, (other, field) ∈ fields → other ≠ key →
    ∀ item r r', field item r = .ok r' → get r' = get r

namespace Fills

/-- **One entry** sets the place or leaves it. -/
theorem layered_set (h : Fills shape.fields key means get) (hkey : key ∈ shape.names) {k : String}
    {item : Item} {r r' : σ} (hset : shape.set k item r = .ok r') :
    Layered means (get r) (if k = key then some item else none) (get r') := by
  rw [set] at hset
  cases hfield : shape.fields.lookup k with
  | none =>
    rw [hfield] at hset
    cases hset
    have hne : k ≠ key := by
      rintro rfl
      exact lookup_fields_eq_none_iff.mp hfield hkey
    exact .inr ⟨if_neg hne, rfl⟩
  | some field =>
    rw [hfield] at hset
    have hmem := mem_of_lookup hfield
    by_cases hk : k = key
    · subst hk
      exact .inl ⟨item, if_pos rfl, h.own field hmem item r r' hset⟩
    · exact .inr ⟨if_neg hk, h.others k field hmem hk item r r' hset⟩

/-- **Over all entries** the last one of the key counts. -/
theorem layered_fillEntries (h : Fills shape.fields key means get) (hkey : key ∈ shape.names)
    {entries : Entries} {r r' : σ} (hfill : shape.fillEntries entries r = .ok r') :
    Layered means (get r) (lastValue? key entries) (get r') := by
  induction entries generalizing r with
  | nil =>
    cases hfill
    exact .inr ⟨rfl, rfl⟩
  | cons entry rest ih =>
    obtain ⟨k, item⟩ := entry
    obtain ⟨r₁, hset, hrest⟩ := bind_eq_ok_iff.mp hfill
    rw [lastValue?]
    rcases ih hrest with ⟨last, hlast, hmeans⟩ | ⟨hnone, hkept⟩
    · exact .inl ⟨last, by rw [hlast, Option.some_or], hmeans⟩
    · -- nothing comes later, so what this entry makes of the place is left
      rw [hnone, Option.none_or, hkept]
      exact h.layered_set hkey hset

theorem tail {entry : String × (Item → σ → Except Fault σ)}
    {fields : List (String × (Item → σ → Except Fault σ))}
    (h : Fills (entry :: fields) key means get) : Fills fields key means get where
  own field hfield := h.own field (List.mem_cons_of_mem _ hfield)
  others other field hfield := h.others other field (List.mem_cons_of_mem _ hfield)

/-- Fields of other keys leave the place. -/
theorem get_fillItems {fields : List (String × (Item → σ → Except Fault σ))}
    (h : Fills fields key means get) (hkey : key ∉ fields.map (·.1)) {items : List Item}
    {r r' : σ} (hfill : fillItems fields items r = .ok r') :
    get r' = get r := by
  induction fields generalizing items r with
  | nil =>
    cases hfill
    rfl
  | cons entry fields ih =>
    obtain ⟨k, field⟩ := entry
    cases items with
    | nil =>
      cases hfill
      rfl
    | cons item items =>
      obtain ⟨r₁, hfield, hrest⟩ := bind_eq_ok_iff.mp hfill
      simp only [List.map_cons, List.mem_cons, not_or] at hkey
      rw [ih h.tail hkey.2 hrest]
      exact h.others k field List.mem_cons_self (Ne.symm hkey.1) item r r₁ hfield

/-- **Over a list** the item at the place of the field counts. -/
theorem layered_fillItems {fields : List (String × (Item → σ → Except Fault σ))}
    (h : Fills fields key means get) (hnames : (fields.map (·.1)).Nodup)
    (hkey : key ∈ fields.map (·.1)) {items : List Item} {r r' : σ}
    (hfill : fillItems fields items r = .ok r') :
    Layered means (get r) items[(fields.map (·.1)).idxOf key]? (get r') := by
  induction fields generalizing items r with
  | nil => exact absurd hkey (by simp)
  | cons entry fields ih =>
    obtain ⟨k, field⟩ := entry
    cases items with
    | nil =>
      cases hfill
      exact .inr ⟨rfl, rfl⟩
    | cons item items =>
      obtain ⟨r₁, hfield, hrest⟩ := bind_eq_ok_iff.mp hfill
      rw [List.map_cons, List.nodup_cons] at hnames
      rw [List.map_cons, List.mem_cons] at hkey
      rw [List.map_cons, List.idxOf_cons]
      by_cases hk : k = key
      · -- the field is the first one, and no later one has its key
        subst hk
        rw [beq_self_eq_true, cond_true, h.tail.get_fillItems hnames.1 hrest]
        exact .inl ⟨item, rfl, h.own field List.mem_cons_self item r r₁ hfield⟩
      · rw [beq_false_of_ne hk, cond_false, List.getElem?_cons_succ]
        rw [← h.others k field List.mem_cons_self hk item r r₁ hfield]
        exact ih h.tail hnames.2 (hkey.resolve_left (Ne.symm hk)) hrest

end Fills

/-- What stands in an item for a field: under its key in a table, at its place in a list. -/
def member? (shape : Shape σ) (key : String) : Item → Option Item
  | .table _ entries => lastValue? key entries
  | .array items => items[shape.names.idxOf key]?
  | .tables elements => (elements.map (Item.table .header))[shape.names.idxOf key]?
  | _ => none

/-- **A record that is filled from an item** has in each place what stands there for it. -/
theorem Fills.layered_fill (h : Fills shape.fields key means get) (hnames : shape.names.Nodup)
    (hkey : key ∈ shape.names) {item : Item} {r r' : σ} (hfill : shape.fill item r = .ok r') :
    Layered means (get r) (shape.member? key item) (get r') := by
  cases item with
  | table origin entries => exact h.layered_fillEntries hkey hfill
  | array items => exact h.layered_fillItems hnames hkey hfill
  | tables elements => exact h.layered_fillItems hnames hkey hfill
  | datetime =>
    cases hfill
    exact .inr ⟨rfl, rfl⟩
  | _ => exact absurd hfill (by simp [fill])

end Shape

/-- What a document says about a setting in one of its parts. -/
def inPart? {σ : Type} (shape : Shape σ) (part key : String) (entries : Entries) : Option Item :=
  (lastValue? part entries).bind (shape.member? key)

/-- **A setting in a part** has its first value without the part, and without the setting in it. -/
theorem Shape.Fills.layered_part {σ β : Type} {shape : Shape σ} {part key : String}
    {means : Item → β → Prop} {get : σ → β} (h : Fills shape.fields key means get)
    (hnames : shape.names.Nodup) (hkey : key ∈ shape.names) {entries : Entries} {first r : σ}
    (hpart : Layered (fun item r => shape.fill item first = .ok r) first
      (lastValue? part entries) r) :
    Layered means (get first) (inPart? shape part key entries) (get r) := by
  rcases hpart with ⟨item, hitem, hfill⟩ | ⟨hnone, rfl⟩
  · rw [inPart?, hitem, Option.bind_some]
    exact h.layered_fill hnames hkey hfill
  · exact .inr ⟨by rw [inPart?, hnone, Option.bind_none], rfl⟩

/-! ## Keys without a field -/

namespace Shape

variable {σ : Type} {shape : Shape σ}

/-- The entries whose keys have a field. -/
def known (shape : Shape σ) (entries : Entries) : Entries :=
  entries.filter fun entry => shape.names.contains entry.1

/-- What an item says about the fields. Of a table that is the entries whose keys have one, however
it came to be, and nothing if there are none. What is no table stays as it is. -/
def knownIn (shape : Shape σ) : Item → Option Item
  | .table _ entries =>
    if (shape.known entries).isEmpty then none else some (.table .header (shape.known entries))
  | other => some other

theorem known_cons_of_mem {key : String} (h : key ∈ shape.names) (item : Item) (rest : Entries) :
    shape.known ((key, item) :: rest) = (key, item) :: shape.known rest :=
  List.filter_cons_of_pos (by simpa using h)

theorem known_cons_of_not_mem {key : String} (h : key ∉ shape.names) (item : Item)
    (rest : Entries) : shape.known ((key, item) :: rest) = shape.known rest :=
  List.filter_cons_of_neg (by simpa using h)

/-- A key without a field changes nothing. -/
theorem set_of_not_mem {key : String} (h : key ∉ shape.names) (item : Item) (r : σ) :
    shape.set key item r = .ok r := by
  rw [set, lookup_fields_eq_none_iff.mpr h]

theorem fillEntries_known (entries : Entries) (r : σ) :
    shape.fillEntries (shape.known entries) r = shape.fillEntries entries r := by
  induction entries generalizing r with
  | nil => rfl
  | cons entry rest ih =>
    obtain ⟨key, item⟩ := entry
    by_cases hkey : key ∈ shape.names
    · rw [known_cons_of_mem hkey]
      exact bind_congr_of_ok fun r₁ _ => ih r₁
    · rw [known_cons_of_not_mem hkey, ih, fillEntries, set_of_not_mem hkey]
      rfl

theorem lastValue?_known {key : String} (hkey : key ∈ shape.names) (entries : Entries) :
    lastValue? key (shape.known entries) = lastValue? key entries := by
  induction entries with
  | nil => rfl
  | cons entry rest ih =>
    obtain ⟨k, item⟩ := entry
    by_cases hk : k ∈ shape.names
    · rw [known_cons_of_mem hk, lastValue?, lastValue?, ih]
    · have hne : k ≠ key := by
        rintro rfl
        exact hk hkey
      rw [known_cons_of_not_mem hk, ih, lastValue?, if_neg hne, Option.or_none]

/-- What an item says about the fields fills them as the item does. -/
theorem fill_knownIn {item item' : Item} (h : shape.knownIn item = some item') (r : σ) :
    shape.fill item' r = shape.fill item r := by
  cases item with
  | table origin entries =>
    rw [knownIn] at h
    split at h
    next => exact absurd h (by simp)
    next =>
      cases h
      exact fillEntries_known entries r
  | _ =>
    cases h
    rfl

/-- An item that says nothing about the fields leaves them as they are. -/
theorem fill_of_knownIn_eq_none {item : Item} (h : shape.knownIn item = none) (r : σ) :
    shape.fill item r = .ok r := by
  cases item with
  | table origin entries =>
    rw [knownIn] at h
    split at h
    next hempty =>
      rw [fill, ← fillEntries_known, List.isEmpty_iff.mp hempty]
      rfl
    next => exact absurd h (by simp)
  | _ => exact absurd h (by simp [knownIn])

theorem member?_knownIn {key : String} (hkey : key ∈ shape.names) (item : Item) :
    (shape.knownIn item).bind (shape.member? key) = shape.member? key item := by
  cases item with
  | table origin entries =>
    rw [knownIn, member?, ← lastValue?_known hkey]
    split
    next hempty =>
      rw [List.isEmpty_iff.mp hempty]
      rfl
    next => rfl
  | _ => rfl

end Shape

/-! ## Records of independent places -/

/-- A place in a record with the key that fills it: how items are read, what they then say, and how
the place is set. -/
structure Slot (σ : Type) where
  key : String
  Value : Type
  read : Item → Except Fault Value
  means : Item → Value → Prop
  get : σ → Value
  set : Value → σ → σ
  means_of_read : ∀ {item : Item} {value : Value}, read item = .ok value → means item value
  get_set : ∀ value r, get (set value r) = value

namespace Slot

variable {σ : Type}

/-- A place for a text. -/
def text (key : String) (get : σ → String) (set : String → σ → σ)
    (get_set : ∀ s r, get (set s r) = s) : Slot σ :=
  ⟨key, String, Item.asText, IsText, get, set, asText_eq_ok, get_set⟩

/-- A place for a part, which is filled from first values of its own. -/
def part {ρ : Type} (key : String) (shape : Shape ρ) (first : ρ) (get : σ → ρ)
    (set : ρ → σ → σ) (get_set : ∀ part r, get (set part r) = part) : Slot σ :=
  ⟨key, ρ, (shape.fill · first), fun item r => shape.fill item first = .ok r, get, set, id, get_set⟩

/-- The field of a place. -/
def field (s : Slot σ) : String × (Item → σ → Except Fault σ) :=
  (s.key, fun item r => do
    let value ← s.read item
    return s.set value r)

/-- Two places have different keys, and setting one leaves the other. -/
structure Apart (s t : Slot σ) : Prop where
  keys : s.key ≠ t.key
  left : ∀ value r, s.get (t.set value r) = s.get r
  right : ∀ value r, t.get (s.set value r) = t.get r

end Slot

namespace Shape

variable {σ : Type} {shape : Shape σ} {slots : List (Slot σ)} {s t : Slot σ}

/-- The fields of a shape are those of places that are apart from each other. -/
structure HasSlots (shape : Shape σ) (slots : List (Slot σ)) : Prop where
  fields_eq : shape.fields = slots.map Slot.field
  apart : slots.Pairwise Slot.Apart

namespace HasSlots

theorem names_eq (h : shape.HasSlots slots) : shape.names = slots.map Slot.key := by
  rw [names, h.fields_eq, List.map_map]
  rfl

theorem nodup_names (h : shape.HasSlots slots) : shape.names.Nodup := by
  rw [h.names_eq, List.nodup_iff_pairwise_ne, List.pairwise_map]
  exact h.apart.imp Slot.Apart.keys

/-- Two places are the same or apart. -/
theorem eq_or_apart (h : shape.HasSlots slots) (hs : s ∈ slots) (ht : t ∈ slots) :
    s = t ∨ s.Apart t := by
  -- `h` fixes the shape, so the induction is on the pairs alone
  have hpairs := h.apart
  clear h
  induction slots with
  | nil => exact absurd hs (by simp)
  | cons first rest ih =>
    obtain ⟨hfirst, hrest⟩ := List.pairwise_cons.mp hpairs
    rcases List.mem_cons.mp hs with rfl | hs'
    · rcases List.mem_cons.mp ht with rfl | ht'
      · exact .inl rfl
      · exact .inr (hfirst t ht')
    · rcases List.mem_cons.mp ht with rfl | ht'
      · have hapart := hfirst s hs'
        exact .inr ⟨hapart.keys.symm, hapart.right, hapart.left⟩
      · exact ih hs' ht' hrest

/-- **Each place belongs to its key.** -/
theorem fills (h : shape.HasSlots slots) (hs : s ∈ slots) :
    Fills shape.fields s.key s.means s.get := by
  rw [h.fields_eq]
  constructor
  · intro field hfield item r r' hset
    obtain ⟨t, ht, hkey⟩ := List.mem_map.mp hfield
    obtain ⟨htkey, rfl⟩ := Prod.mk.inj hkey
    rcases h.eq_or_apart hs ht with rfl | hapart
    · obtain ⟨value, hread, hpure⟩ := bind_eq_ok_iff.mp hset
      rw [← pure_eq_ok_iff.mp hpure, s.get_set]
      exact s.means_of_read hread
    · exact absurd htkey.symm hapart.keys
  · intro other field hfield hne item r r' hset
    obtain ⟨t, ht, hkey⟩ := List.mem_map.mp hfield
    obtain ⟨rfl, rfl⟩ := Prod.mk.inj hkey
    rcases h.eq_or_apart hs ht with rfl | hapart
    · exact absurd rfl hne
    · obtain ⟨value, -, hpure⟩ := bind_eq_ok_iff.mp hset
      rw [← pure_eq_ok_iff.mp hpure, hapart.left]

theorem key_mem_names (h : shape.HasSlots slots) (hs : s ∈ slots) : s.key ∈ shape.names := by
  rw [h.names_eq]
  exact List.mem_map_of_mem hs

/-- Every place of a record that is filled from entries. -/
theorem layered_fillEntries (h : shape.HasSlots slots) {entries : Entries} {r r' : σ}
    (hfill : shape.fillEntries entries r = .ok r') :
    ∀ s ∈ slots, Layered s.means (s.get r) (lastValue? s.key entries) (s.get r') :=
  fun _ hs => (h.fills hs).layered_fillEntries (h.key_mem_names hs) hfill

/-- A key can be set when the item can be read for its place. -/
theorem exists_set_iff (h : shape.HasSlots slots) {key : String} {item : Item} {r : σ} :
    (∃ r', shape.set key item r = .ok r') ↔
      ∀ s ∈ slots, s.key = key → ∃ value, s.read item = .ok value := by
  rw [set]
  cases hfield : shape.fields.lookup key with
  | none =>
    refine iff_of_true ⟨r, rfl⟩ ?_
    rintro s hs rfl
    exact absurd (h.key_mem_names hs) (lookup_fields_eq_none_iff.mp hfield)
  | some field =>
    have hmem := mem_of_lookup hfield
    rw [h.fields_eq, List.mem_map] at hmem
    obtain ⟨t, ht, heq⟩ := hmem
    obtain ⟨rfl, rfl⟩ := Prod.mk.inj heq
    constructor
    · rintro ⟨r', hset⟩ s hs hkey
      rcases h.eq_or_apart hs ht with rfl | hapart
      · obtain ⟨value, hread, -⟩ := bind_eq_ok_iff.mp hset
        exact ⟨value, hread⟩
      · exact absurd hkey hapart.keys
    · intro hall
      obtain ⟨value, hread⟩ := hall t ht rfl
      exact ⟨t.set value r, bind_eq_ok_iff.mpr ⟨value, hread, rfl⟩⟩

/-- **Entries fill a record when each of them can be read for its place**, whatever is in the
record. -/
theorem exists_fillEntries_iff (h : shape.HasSlots slots) {entries : Entries} {r : σ} :
    (∃ r', shape.fillEntries entries r = .ok r') ↔
      ∀ entry ∈ entries, ∀ s ∈ slots, s.key = entry.1 → ∃ value, s.read entry.2 = .ok value := by
  induction entries generalizing r with
  | nil => exact iff_of_true ⟨r, rfl⟩ (by simp)
  | cons entry rest ih =>
    obtain ⟨key, item⟩ := entry
    rw [List.forall_mem_cons, ← h.exists_set_iff (r := r)]
    constructor
    · rintro ⟨r', hfill⟩
      obtain ⟨r₁, hset, hrest⟩ := bind_eq_ok_iff.mp hfill
      exact ⟨⟨r₁, hset⟩, ih.mp ⟨r', hrest⟩⟩
    · rintro ⟨⟨r₁, hset⟩, hall⟩
      obtain ⟨r', hrest⟩ := ih.mpr hall
      exact ⟨r', bind_eq_ok_iff.mpr ⟨r₁, hset, hrest⟩⟩

/-- Every place of a part. -/
theorem layered_part (h : shape.HasSlots slots) {part : String} {entries : Entries} {first r : σ}
    (hpart : Layered (fun item r => shape.fill item first = .ok r) first
      (lastValue? part entries) r) :
    ∀ s ∈ slots, Layered s.means (s.get first) (inPart? shape part s.key entries) (s.get r) :=
  fun _ hs => (h.fills hs).layered_part h.nodup_names (h.key_mem_names hs) hpart

end HasSlots

end Shape

end AppRelease.Toml
