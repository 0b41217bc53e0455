import AppRelease.Dict
import AppRelease.Text.Cut

/-!
# Laws that the proofs share

1. **Results in sequence.** A computation of several steps succeeds exactly when every step does
   (`bind_eq_ok_iff`), so a proof takes a success apart step by step; it fails at the first step
   that does (`bind_eq_error_iff`).
2. **The entry that counts.** `lastValue?` is the last value of a key, by recursion on the list of
   entries and without a dictionary; `lastValue?_eq_some_iff` says that it is the value of the
   `LastEntry`.
3. **Dictionaries.** Every look-up in a dictionary that was made from another, or from a list, in
   terms of look-ups in what it was made from. With `Dict.ext_get?` these decide equality of
   dictionaries.
4. **Cuts.** A text has one rest after a lead (`Text.after?_eq_some_iff`). `Text.cutAtLast` divides
   a text at the last occurrence of a character, which can be done in one way only
   (`Text.cutAtLast_eq_some_iff`).
-/

namespace AppRelease

/-! ## Results in sequence -/

/-- **A sequence succeeds exactly when both steps do.** -/
theorem bind_eq_ok_iff {ε α β : Type} {x : Except ε α} {f : α → Except ε β} {b : β} :
    x >>= f = .ok b ↔ ∃ a, x = .ok a ∧ f a = .ok b := by
  cases x with
  | error e => simp [bind, Except.bind]
  | ok a => simp [bind, Except.bind]

/-- A sequence fails when its first step does, or the second one after it. -/
theorem bind_eq_error_iff {ε α β : Type} {x : Except ε α} {f : α → Except ε β} {e : ε} :
    x >>= f = .error e ↔ x = .error e ∨ ∃ a, x = .ok a ∧ f a = .error e := by
  cases x with
  | error e' => simp [bind, Except.bind]
  | ok a => simp [bind, Except.bind]

/-- Sequences with the same first step are the same when they go on in the same way from what it
gives. -/
theorem bind_congr_of_ok {ε α β : Type} {x : Except ε α} {f g : α → Except ε β}
    (h : ∀ a, x = .ok a → f a = g a) : x >>= f = x >>= g := by
  cases x with
  | error e => rfl
  | ok a => exact h a rfl

@[simp] theorem pure_eq_ok_iff {ε α : Type} {a b : α} : (pure a : Except ε α) = .ok b ↔ a = b := by
  simp [pure, Except.pure]

theorem mapError_eq_ok_iff {ε ε' α : Type} {f : ε → ε'} {x : Except ε α} {a : α} :
    x.mapError f = .ok a ↔ x = .ok a := by
  cases x with
  | error e =>
    show (Except.error (f e) : Except ε' α) = .ok a ↔ _
    simp
  | ok b =>
    show (Except.ok b : Except ε' α) = .ok a ↔ _
    simp

@[simp] theorem toOption_eq_some_iff {ε α : Type} {x : Except ε α} {a : α} :
    x.toOption = some a ↔ x = .ok a := by
  cases x with
  | error e => simp [Except.toOption]
  | ok b => simp [Except.toOption]

/-- A result that holds something is a success. -/
theorem exists_eq_ok_of_isSome {ε α : Type} {x : Except ε α} (h : x.toOption.isSome) :
    ∃ a, x = .ok a := by
  obtain ⟨a, ha⟩ := Option.isSome_iff_exists.mp h
  exact ⟨a, toOption_eq_some_iff.mp ha⟩

/-- Results can be compared, so what a run gives can be checked by evaluation. -/
instance decidableEqExcept {ε α : Type} [DecidableEq ε] [DecidableEq α] : DecidableEq (Except ε α)
  | .ok a, .ok b => decidable_of_iff (a = b) (by simp)
  | .error a, .error b => decidable_of_iff (a = b) (by simp)
  | .ok _, .error _ => .isFalse (by simp)
  | .error _, .ok _ => .isFalse (by simp)

/-! ## The entry that counts -/

/-- The value of the last entry of a key. -/
def lastValue? {α : Type} (key : String) : List (String × α) → Option α
  | [] => none
  | (k, v) :: rest => (lastValue? key rest).or (if k = key then some v else none)

section LastValue

variable {α β : Type} {key : String}

/-- The last value of a key is the value of an entry. -/
theorem mem_of_lastValue? {value : α} {entries : List (String × α)}
    (h : lastValue? key entries = some value) : (key, value) ∈ entries := by
  induction entries with
  | nil => exact absurd h (by simp [lastValue?])
  | cons entry rest ih =>
    obtain ⟨k, v⟩ := entry
    rw [lastValue?, Option.or_eq_some_iff] at h
    rcases h with h | ⟨-, h⟩
    · exact List.mem_cons_of_mem _ (ih h)
    · by_cases hk : k = key
      · rw [if_pos hk, Option.some.injEq] at h
        rw [← hk, ← h]
        exact List.mem_cons_self
      · rw [if_neg hk] at h
        exact absurd h (by simp)

/-- An entry that no later entry of its key follows. -/
def LastEntry (entries : List (String × α)) (key : String) (value : α) : Prop :=
  ∃ before after, entries = before ++ (key, value) :: after ∧ ∀ entry ∈ after, entry.1 ≠ key

/-- A key without a last value has no entry. -/
theorem lastValue?_eq_none_iff {entries : List (String × α)} :
    lastValue? key entries = none ↔ ∀ entry ∈ entries, entry.1 ≠ key := by
  induction entries with
  | nil => simp [lastValue?]
  | cons entry rest ih =>
    obtain ⟨k, v⟩ := entry
    rw [lastValue?, Option.or_eq_none_iff, ih, List.forall_mem_cons]
    by_cases hk : k = key <;> simp [hk]

/-- **The last value is that of the last entry.** -/
theorem lastValue?_eq_some_iff {entries : List (String × α)} {value : α} :
    lastValue? key entries = some value ↔ LastEntry entries key value := by
  induction entries with
  | nil => simp [lastValue?, LastEntry]
  | cons entry rest ih =>
    obtain ⟨k, v⟩ := entry
    rw [lastValue?, Option.or_eq_some_iff, ih, lastValue?_eq_none_iff]
    constructor
    · rintro (⟨before, after, rfl, hafter⟩ | ⟨hrest, hv⟩)
      · exact ⟨(k, v) :: before, after, rfl, hafter⟩
      · by_cases hk : k = key
        · rw [if_pos hk, Option.some.injEq] at hv
          exact ⟨[], rest, by rw [hk, hv]; rfl, hrest⟩
        · rw [if_neg hk] at hv
          exact absurd hv (by simp)
    · rintro ⟨before, after, hsplit, hafter⟩
      -- the last entry is the first of the list, or it is the last entry of the rest
      cases before with
      | nil =>
        obtain ⟨hentry, rfl⟩ := List.cons.inj hsplit
        obtain ⟨rfl, rfl⟩ := Prod.mk.inj hentry
        exact .inr ⟨hafter, by simp⟩
      | cons first before =>
        obtain ⟨-, rfl⟩ := List.cons.inj hsplit
        exact .inl ⟨before, after, rfl, hafter⟩

/-- The last value in two lists is that of the second, if there is one. -/
theorem lastValue?_append (entries more : List (String × α)) :
    lastValue? key (entries ++ more) = (lastValue? key more).or (lastValue? key entries) := by
  induction entries with
  | nil => simp [lastValue?]
  | cons entry rest ih =>
    obtain ⟨k, v⟩ := entry
    rw [List.cons_append, lastValue?, lastValue?, ih, Option.or_assoc]

/-- With distinct keys every entry counts. -/
theorem lastValue?_eq_some_iff_mem {entries : List (String × α)}
    (hdistinct : (entries.map (·.1)).Nodup) {value : α} :
    lastValue? key entries = some value ↔ (key, value) ∈ entries := by
  refine ⟨mem_of_lastValue?, fun hmem => lastValue?_eq_some_iff.mpr ?_⟩
  obtain ⟨before, after, rfl⟩ := List.append_of_mem hmem
  refine ⟨before, after, rfl, ?_⟩
  rintro ⟨k, v⟩ hentry rfl
  rw [List.map_append, List.nodup_append] at hdistinct
  exact (List.nodup_cons.mp hdistinct.2.1).1 (List.mem_map.mpr ⟨_, hentry, rfl⟩)

/-- The order of entries with distinct keys does not matter. -/
theorem lastValue?_of_perm {entries others : List (String × α)}
    (hdistinct : (entries.map (·.1)).Nodup) (h : entries.Perm others) :
    lastValue? key entries = lastValue? key others := by
  apply Option.ext
  intro value
  rw [lastValue?_eq_some_iff_mem hdistinct,
    lastValue?_eq_some_iff_mem ((h.map _).nodup_iff.mp hdistinct), h.mem_iff]

/-- A function on values goes through to the value that counts. -/
theorem lastValue?_map (f : α → β) (entries : List (String × α)) :
    lastValue? key (entries.map fun e => (e.1, f e.2)) = (lastValue? key entries).map f := by
  induction entries with
  | nil => rfl
  | cons entry rest ih =>
    obtain ⟨k, v⟩ := entry
    rw [List.map_cons, lastValue?, lastValue?, ih, Option.map_or]
    by_cases hk : k = key <;> simp [hk]

/-- The same for a function that gives nothing for some values, when it gives something for all that
are there. Without that the value that counts could be an earlier one. -/
theorem lastValue?_filterMap (f : α → Option β) (entries : List (String × α))
    (hall : ∀ e ∈ entries, (f e.2).isSome) :
    lastValue? key (entries.filterMap fun e => (f e.2).map fun v => (e.1, v)) =
      (lastValue? key entries).bind f := by
  induction entries with
  | nil => rfl
  | cons entry rest ih =>
    obtain ⟨k, v⟩ := entry
    have hrest := ih fun e he => hall e (List.mem_cons_of_mem _ he)
    obtain ⟨w, hw⟩ : ∃ w, f v = some w :=
      Option.isSome_iff_exists.mp (hall (k, v) List.mem_cons_self)
    simp only [List.filterMap_cons, hw, Option.map_some, lastValue?, hrest]
    cases hlast : lastValue? key rest with
    | none => by_cases hk : k = key <;> simp [hk, hw]
    | some u =>
      -- a later entry counts, and it has a value as every entry has
      have hu := hall (key, u) (List.mem_cons_of_mem _ (mem_of_lastValue? hlast))
      obtain ⟨x, hx⟩ := Option.isSome_iff_exists.mp hu
      simp [hx]

end LastValue

/-! ## Dictionaries -/

namespace Dict

variable {α β : Type}

/-- Many insertions, seen by a look-up: the last entry of the key, else what was there before. -/
theorem get?_insertAll (d : Dict α) (entries : List (String × α)) (key : String) :
    (d.insertAll entries).get? key = (lastValue? key entries).or (d.get? key) := by
  induction entries generalizing d with
  | nil => simp [insertAll, lastValue?]
  | cons entry rest ih =>
    obtain ⟨k, v⟩ := entry
    have hstep : d.insertAll ((k, v) :: rest) = (d.insert k v).insertAll rest := rfl
    rw [hstep, ih, get?_insert, lastValue?, Option.or_assoc]
    by_cases hk : key = k
    · simp [hk]
    · simp [hk, Ne.symm hk]

/-- **In a dictionary made from a list the last entry of a key counts.** -/
@[simp] theorem get?_ofList (entries : List (String × α)) (key : String) :
    (ofList entries).get? key = lastValue? key entries := by
  rw [ofList, get?_insertAll, get?_empty, Option.or_none]

/-- The keys of a dictionary are those of the entries that it was made from. -/
theorem mem_keys_ofList {entries : List (String × α)} {key : String} :
    key ∈ (ofList entries).keys ↔ ∃ value, (key, value) ∈ entries := by
  rw [mem_keys_iff, get?_ofList]
  constructor
  · intro hsome
    obtain ⟨value, hvalue⟩ := Option.isSome_iff_exists.mp hsome
    exact ⟨value, mem_of_lastValue? hvalue⟩
  · rintro ⟨value, hentry⟩
    rw [Option.isSome_iff_ne_none]
    exact fun hnone => lastValue?_eq_none_iff.mp hnone _ hentry rfl

/-- The entries of a dictionary are the last ones of those that it was made from. -/
theorem mem_entries_ofList {entries : List (String × α)} {key : String} {value : α} :
    (key, value) ∈ (ofList entries).entries ↔ LastEntry entries key value := by
  rw [← get?_eq_some_iff, get?_ofList, lastValue?_eq_some_iff]

/-- No key is there twice. -/
theorem nodup_keys (d : Dict α) : d.keys.Nodup := by
  rw [keys, List.nodup_iff_pairwise_ne, List.pairwise_map]
  refine List.Pairwise.imp ?_ d.sorted
  intro a b hlt heq
  exact String.lt_irrefl _ (heq ▸ hlt)

/-- **A dictionary is made from its entries in any order**, as no key is there twice. -/
theorem ofList_of_perm {d : Dict α} {entries : List (String × α)} (h : entries.Perm d.entries) :
    ofList entries = d := by
  apply ext_get?
  intro key
  apply Option.ext
  intro value
  rw [get?_ofList, get?_eq_some_iff, ← h.mem_iff]
  constructor
  · exact mem_of_lastValue?
  · intro hmem
    cases hlast : lastValue? key entries with
    | none => exact absurd rfl (lastValue?_eq_none_iff.mp hlast _ hmem)
    | some other =>
      have hother := mem_of_lastValue? hlast
      rw [h.mem_iff, ← get?_eq_some_iff] at hmem hother
      exact hother.symm.trans hmem

/-- A dictionary is made from its own entries. -/
theorem ofList_entries (d : Dict α) : ofList d.entries = d := ofList_of_perm (.refl d.entries)

/-- No key is there twice, so the last value of a key is its value. -/
theorem lastValue?_entries (d : Dict α) (key : String) : lastValue? key d.entries = d.get? key := by
  rw [← get?_ofList, ofList_entries]

@[simp] theorem get?_mapValues (f : String → α → β) (d : Dict α) (key : String) :
    (d.mapValues f).get? key = (d.get? key).map (f key) := by
  apply Option.ext
  intro value
  rw [get?_eq_some_iff, Option.map_eq_some_iff, mapValues, List.mem_map]
  constructor
  · rintro ⟨⟨k, v⟩, hmem, heq⟩
    obtain ⟨rfl, rfl⟩ := Prod.mk.inj heq
    exact ⟨v, d.get?_eq_some_iff.mpr hmem, rfl⟩
  · rintro ⟨v, hv, rfl⟩
    exact ⟨(key, v), d.get?_eq_some_iff.mp hv, rfl⟩

/-- A look-up among the values that are kept. -/
@[simp] theorem get?_filterMap (f : α → Option β) (d : Dict α) (key : String) :
    (d.filterMap f).get? key = (d.get? key).bind f := by
  apply Option.ext
  intro value
  rw [get?_eq_some_iff, Option.bind_eq_some_iff, filterMap, List.mem_filterMap]
  constructor
  · rintro ⟨⟨k, v⟩, hmem, heq⟩
    obtain ⟨w, hw, heq⟩ := Option.map_eq_some_iff.mp heq
    obtain ⟨rfl, rfl⟩ := Prod.mk.inj heq
    exact ⟨v, d.get?_eq_some_iff.mpr hmem, hw⟩
  · rintro ⟨v, hv, hf⟩
    exact ⟨(key, v), d.get?_eq_some_iff.mp hv, by rw [hf]; rfl⟩

/-- When the values of one form are kept, a look-up finds what is inside that form. -/
theorem get?_filterMap_eq_some_iff {f : α → Option β} {form : β → α}
    (hform : ∀ a b, f a = some b ↔ a = form b) {d : Dict α} {key : String} {b : β} :
    (d.filterMap f).get? key = some b ↔ d.get? key = some (form b) := by
  rw [get?_filterMap, Option.bind_eq_some_iff]
  constructor
  · rintro ⟨a, ha, hf⟩
    rw [ha, (hform a b).mp hf]
  · intro h
    exact ⟨form b, h, (hform _ b).mpr rfl⟩

end Dict

/-! ## Cuts -/

/-- A text with a lead is the lead, then the rest. -/
theorem Text.after?_eq_some_iff {lead text rest : List Char} :
    after? lead text = some rest ↔ text = lead ++ rest := by
  induction lead generalizing text with
  | nil => simp [after?]
  | cons a lead ih =>
    cases text with
    | nil => simp [after?]
    | cons b text =>
      rw [after?]
      by_cases hab : a = b
      · simp [hab, ih]
      · simp [hab, Ne.symm hab]

/-- What stands before and after the last `c` of a text; nothing when there is none. -/
def Text.cutAtLast (c : Char) (s : String) : Option (String × String) :=
  (cutAt c s.toList.reverse).map fun parts =>
    (String.ofList parts.2.reverse, String.ofList parts.1.reverse)

/-- **A text cut at its last `c`** is the first part, then `c`, then the second part, which has no
`c`. -/
theorem Text.cutAtLast_eq_some_iff {c : Char} {s before rest : String} :
    cutAtLast c s = some (before, rest) ↔ s.toList = before.toList ++ c :: rest.toList ∧
      c ∉ rest.toList := by
  have hcut : cutAtLast c s = some (before, rest) ↔
      cutAt c s.toList.reverse = some (rest.toList.reverse, before.toList.reverse) := by
    rw [cutAtLast, Option.map_eq_some_iff]
    constructor
    · rintro ⟨⟨last, first⟩, hparts, heq⟩
      obtain ⟨rfl, rfl⟩ := Prod.mk.inj heq
      simpa using hparts
    · intro hparts
      exact ⟨_, hparts, by simp⟩
  rw [hcut, cutAt_eq_some_iff, List.reverse_eq_iff, List.mem_reverse]
  simp

end AppRelease
