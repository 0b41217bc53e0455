import AppRelease.Secrets.Bundle
import AppRelease.Proofs.ByteOrder
import AppRelease.Proofs.Documents
import AppRelease.Proofs.Laws

/-!
# Which objects are secrets

Program: a store of JSON files reads the content of a file with `Store.readPlain`, first as an
object and then member by member.

Specification: `single_values_by_last_member`. Of the members with one key only the last counts, for
what is accepted, for what is read and for what is reported. The members are those that stand in the
content, and the same can be said of the texts that they are written with (`ReadByTexts`).

1. **Values.** `StandsFor` has the values that are a text, a number or a truth value, with the text
   they stand for; `Called` has the others, with the words of the report. Every value is in one of
   them and none is in both.
2. **Members.** They are taken in one pass from the smallest key on, so it stops at the smallest key
   whose value is called something (`scalarMembers_of_error`).
3. **Order.** Keys ascend as texts do, which is as their bytes do (`Text.lt_iff_bytesOf_lt`).
4. **Texts.** `Spells` and `Names` are `StandsFor` and `Called` for the text of a value. The last
   field of a key in a document is the text of its last member (`exists_lastEntry_of_field`,
   `exists_field_of_lastEntry`).
-/

namespace AppRelease.Secrets

/-! ## Values -/

/-- The text that a single value stands for. -/
inductive StandsFor : Json.Value → String → Prop where
  | text {s : String} : StandsFor (.text s) s
  | number {n : Json.Number} : StandsFor (.number n) n.text
  | yes : StandsFor (.boolean true) "true"
  | no : StandsFor (.boolean false) "false"

/-- What a value is called that is not a single one. -/
inductive Called : Json.Value → String → Prop where
  | null : Called .null "null"
  | array {items : List Json.Value} : Called (.array items) "an array"
  | object {members : List (String × Json.Value)} : Called (.object members) "an object"

theorem standsFor_of_scalarText {value : Json.Value} {text : String}
    (h : scalarText value = .ok text) :
    StandsFor value text := by
  cases value with
  | text s =>
    obtain rfl : s = text := Except.ok.inj h
    exact .text
  | number n =>
    obtain rfl : n.text = text := Except.ok.inj h
    exact .number
  | boolean b =>
    cases b with
    | true =>
      obtain rfl : "true" = text := Except.ok.inj h
      exact .yes
    | false =>
      obtain rfl : "false" = text := Except.ok.inj h
      exact .no
  | null => exact absurd h (by simp [scalarText])
  | array items => exact absurd h (by simp [scalarText])
  | object members => exact absurd h (by simp [scalarText])

theorem scalarText_of_standsFor {value : Json.Value} {text : String} (h : StandsFor value text) :
    scalarText value = .ok text := by
  cases h <;> rfl

theorem called_of_scalarText {value : Json.Value} {found : Compound}
    (h : scalarText value = .error found) :
    Called value found.message := by
  cases value with
  | null =>
    obtain rfl : Compound.null = found := Except.error.inj h
    exact .null
  | array items =>
    obtain rfl : Compound.array = found := Except.error.inj h
    exact .array
  | object members =>
    obtain rfl : Compound.object = found := Except.error.inj h
    exact .object
  | boolean b => cases b <;> exact absurd h (by simp [scalarText])
  | number n => exact absurd h (by simp [scalarText])
  | text s => exact absurd h (by simp [scalarText])

/-- A value that is called something stands for no text. -/
theorem Called.not_standsFor {value : Json.Value} {word text : String} (h : Called value word) :
    ¬ StandsFor value text := by
  rintro ⟨⟩ <;> cases h

/-! ## Members -/

section Members

variable {entries : List (String × Json.Value)} {texts : List (String × String)} {key : String}

/-- **Members that are taken** keep their keys and their order, and each stands for its text. -/
theorem scalarMembers_of_ok (h : scalarMembers entries = .ok texts) :
    texts.map (·.1) = entries.map (·.1) ∧ (∀ entry ∈ entries, ∃ text, StandsFor entry.2 text) ∧
      ∀ key text, (key, text) ∈ texts ↔ ∃ value, (key, value) ∈ entries ∧ StandsFor value text := by
  induction entries generalizing texts with
  | nil =>
    obtain rfl : [] = texts := Except.ok.inj h
    simp
  | cons entry entries ih =>
    obtain ⟨key, value⟩ := entry
    rw [scalarMembers] at h
    split at h
    next => exact absurd h (by simp)
    next text htext =>
      obtain ⟨others, hothers, h⟩ := bind_eq_ok_iff.mp h
      obtain rfl : (key, text) :: others = texts := Except.ok.inj h
      obtain ⟨hkeys, hall, hmem⟩ := ih hothers
      have hvalue : StandsFor value text := standsFor_of_scalarText htext
      refine ⟨?_, List.forall_mem_cons.mpr ⟨⟨text, hvalue⟩, hall⟩, ?_⟩
      · rw [List.map_cons, List.map_cons, hkeys]
      · intro k t
        rw [List.mem_cons, hmem]
        constructor
        · rintro (heq | ⟨v, hv, ht⟩)
          · obtain ⟨rfl, rfl⟩ := Prod.mk.inj heq
            exact ⟨value, List.mem_cons_self, hvalue⟩
          · exact ⟨v, List.mem_cons_of_mem _ hv, ht⟩
        · rintro ⟨v, hv, ht⟩
          rcases List.mem_cons.mp hv with heq | hv
          · obtain ⟨rfl, rfl⟩ := Prod.mk.inj heq
            have hsame : t = text := Except.ok.inj ((scalarText_of_standsFor ht).symm.trans htext)
            exact .inl (by rw [hsame])
          · exact .inr ⟨v, hv, ht⟩

/-- **Members that are not taken** have a first one that is called something, and that is
reported. -/
theorem scalarMembers_of_error {fault : Fault} (h : scalarMembers entries = .error fault) :
    ∃ before key value found after, entries = before ++ (key, value) :: after ∧
      (∀ entry ∈ before, ∃ text, StandsFor entry.2 text) ∧ Called value found.message ∧
      fault = .notScalar key found := by
  induction entries with
  | nil => exact absurd h (by simp [scalarMembers])
  | cons entry entries ih =>
    obtain ⟨key, value⟩ := entry
    rw [scalarMembers] at h
    split at h
    next found hfound =>
      exact ⟨[], key, value, found, entries, rfl, by simp, called_of_scalarText hfound,
        (Except.error.inj h).symm⟩
    next text htext =>
      cases hothers : scalarMembers entries with
      | ok others =>
        rw [hothers] at h
        exact absurd h (by simp [bind, Except.bind, pure, Except.pure])
      | error other =>
        rw [hothers] at h
        obtain rfl : other = fault := Except.error.inj h
        obtain ⟨before, k, v, found, after, rfl, hbefore, hcalled, hfault⟩ := ih hothers
        exact ⟨(key, value) :: before, k, v, found, after, rfl,
          List.forall_mem_cons.mpr ⟨⟨text, standsFor_of_scalarText htext⟩, hbefore⟩,
          hcalled, hfault⟩

end Members

/-! ## Objects -/

section Objects

variable {members : List (String × Json.Value)}

theorem scalars_of_ok {texts : List (String × String)} (h : scalars members = .ok texts) :
    (texts.map (·.1)).Nodup ∧ (∀ key, key ∈ texts.map (·.1) ↔ key ∈ members.map (·.1)) ∧
      (∀ key value, LastEntry members key value → ∃ text, StandsFor value text) ∧
      ∀ key text, (key, text) ∈ texts ↔
        ∃ value, LastEntry members key value ∧ StandsFor value text := by
  obtain ⟨hkeys, hall, hmem⟩ := scalarMembers_of_ok h
  simp only [Dict.mem_entries_ofList] at hmem
  refine ⟨hkeys ▸ (Dict.ofList members).nodup_keys, ?_,
    fun key value hlast => hall _ (Dict.mem_entries_ofList.mpr hlast), hmem⟩
  intro key
  rw [hkeys]
  refine Dict.mem_keys_ofList.trans ?_
  simp

/-- **The report is about the smallest key** among those whose last value is called something. -/
theorem scalars_of_error {fault : Fault} (h : scalars members = .error fault) :
    ∃ key value found, LastEntry members key value ∧ Called value found.message ∧
      fault = .notScalar key found ∧
      ∀ other value word, LastEntry members other value → Called value word →
        other = key ∨ Text.bytesOf key < Text.bytesOf other := by
  obtain ⟨before, key, value, found, after, hsplit, hbefore, hcalled, hfault⟩ :=
    scalarMembers_of_error h
  have hlast : LastEntry members key value := Dict.mem_entries_ofList.mp (by simp [hsplit])
  refine ⟨key, value, found, hlast, hcalled, hfault, ?_⟩
  intro other value' word hother hword
  have hmem := Dict.mem_entries_ofList.mpr hother
  rw [hsplit, List.mem_append, List.mem_cons] at hmem
  have hascending := (Dict.ofList members).sorted
  rw [Ascending, hsplit, List.pairwise_append, List.pairwise_cons] at hascending
  rcases hmem with hmem | heq | hmem
  · obtain ⟨text, htext⟩ := hbefore _ hmem
    exact absurd htext hword.not_standsFor
  · exact .inl (Prod.mk.inj heq).1
  · exact .inr (Text.lt_iff_bytesOf_lt.mp (hascending.2.1.1 _ hmem))

theorem Store.readPlain_json_of_ok {root path content : String} {texts : List (String × String)}
    (hmembers : Json.readObject content = .ok members) (h : scalars members = .ok texts) :
    (Store.mk root .json).readPlain path content = .ok texts := by
  simp only [readPlain, hmembers, h]

theorem Store.readPlain_json_of_error {root path content : String} {fault : Fault}
    (hmembers : Json.readObject content = .ok members) (h : scalars members = .error fault) :
    (Store.mk root .json).readPlain path content = .error (.secretsFile path none none fault) := by
  simp only [readPlain, hmembers, h]

/-! ## Documents -/

/-- Entries that match one by one have matching last values. -/
theorem rel_lastValue? {α β : Type} {r : α → β → Prop} {entries : List (String × α)}
    {others : List (String × β)}
    (h : List.Forall₂ (fun a b => a.1 = b.1 ∧ r a.2 b.2) entries others) (key : String) :
    Option.Rel r (lastValue? key entries) (lastValue? key others) := by
  induction h with
  | nil => exact .none
  | @cons a b entries others hab _ ih =>
    obtain ⟨k, v⟩ := a
    obtain ⟨k', w⟩ := b
    obtain ⟨rfl, hvw⟩ : k = k' ∧ r v w := hab
    rw [lastValue?, lastValue?]
    revert ih
    cases lastValue? key entries <;> cases lastValue? key others <;> intro ih
    · by_cases hk : k = key
      · rw [if_pos hk, if_pos hk]
        exact .some hvw
      · rw [if_neg hk, if_neg hk]
        exact .none
    · cases ih
    · cases ih
    · exact ih

/-- The last entry of a key has a match in the other list, which is the last entry there. -/
theorem exists_lastEntry_of_forall₂ {α β : Type} {r : α → β → Prop} {entries : List (String × α)}
    {others : List (String × β)} {key : String} {v : α}
    (h : List.Forall₂ (fun a b => a.1 = b.1 ∧ r a.2 b.2) entries others)
    (hlast : LastEntry entries key v) : ∃ w, LastEntry others key w ∧ r v w := by
  have hrel := rel_lastValue? h key
  rw [lastValue?_eq_some_iff.mpr hlast] at hrel
  generalize hfound : lastValue? key others = found at hrel
  obtain ⟨hvw⟩ := hrel
  exact ⟨_, lastValue?_eq_some_iff.mp hfound, hvw⟩

section Documents

variable {fields : List (String × List Char)} {key : String} {literal : List Char}
  {value : Json.Value}

/-- The last field of a key is the text of its last member. -/
theorem exists_lastEntry_of_field (h : List.Forall₂ Json.Matches fields members)
    (hlast : LastEntry fields key literal) :
    ∃ value, LastEntry members key value ∧ Json.Denotes literal value :=
  exists_lastEntry_of_forall₂ h hlast

theorem exists_field_of_lastEntry (h : List.Forall₂ Json.Matches fields members)
    (hlast : LastEntry members key value) :
    ∃ literal, LastEntry fields key literal ∧ Json.Denotes literal value := by
  have hflip : List.Forall₂ (fun member field => Json.Matches field member) members fields :=
    h.flip
  exact exists_lastEntry_of_forall₂ (r := fun value literal => Json.Denotes literal value)
    (hflip.imp fun _ _ hmatches => ⟨hmatches.1.symm, hmatches.2⟩) hlast

theorem map_fst_of_matches (h : List.Forall₂ Json.Matches fields members) :
    fields.map (·.1) = members.map (·.1) := by
  induction h with
  | nil => rfl
  | cons hmatches _ ih => rw [List.map_cons, List.map_cons, hmatches.1, ih]

/-- The text of a single value, with the text that it stands for. -/
inductive Spells : List Char → String → Prop where
  | text {s : String} {literal : List Char} : Json.SpellsText s literal → Spells literal s
  | number {n : Json.Number} {literal : List Char} : Json.IsNumber literal →
      Json.ReadsNumber literal n →
      Spells literal n.text
  | yes : Spells ['t', 'r', 'u', 'e'] "true"
  | no : Spells ['f', 'a', 'l', 's', 'e'] "false"

/-- The text of a value that is not a single one, with what that is called. -/
inductive Names : List Char → String → Prop where
  | null : Names ['n', 'u', 'l', 'l'] "null"
  | array {inner : List Char} : Names ('[' :: inner) "an array"
  | object {inner : List Char} : Names ('\x7b' :: inner) "an object"

theorem spells_of_denotes {text : String} (h : Json.Denotes literal value)
    (hvalue : StandsFor value text) :
    Spells literal text := by
  cases hvalue with
  | text =>
    cases h with
    | text hspells => exact .text hspells
  | number =>
    cases h with
    | number hnumber hreads => exact .number hnumber hreads
  | yes =>
    cases h
    exact .yes
  | no =>
    cases h
    exact .no

theorem names_of_denotes {word : String} (h : Json.Denotes literal value)
    (hvalue : Called value word) :
    Names literal word := by
  cases hvalue with
  | null =>
    cases h
    exact .null
  | array =>
    cases h
    exact .array
  | object =>
    cases h
    exact .object

/-- The first character tells whether a value is a single one. -/
theorem Spells.head {text : String} (h : Spells literal text) :
    ∃ a tail, literal = a :: tail ∧ a ∉ ['n', '[', '\x7b'] := by
  cases h with
  | text hspells =>
    obtain ⟨tail, rfl⟩ := hspells.head
    exact ⟨'"', tail, rfl, by decide⟩
  | number hnumber =>
    obtain ⟨a, tail, rfl, ha⟩ := hnumber.head
    refine ⟨a, tail, rfl, ?_⟩
    rcases ha with rfl | ha
    · decide
    · intro hmem
      have hdigits : ['n', '[', '\x7b'].all (fun b => !b.isDigit) = true := by decide
      have hnot : a.isDigit = false := by simpa using List.all_eq_true.mp hdigits a hmem
      exact absurd rfl (Json.ne_of_isDigit ha hnot)
  | yes => exact ⟨'t', _, rfl, by decide⟩
  | no => exact ⟨'f', _, rfl, by decide⟩

theorem Names.head {word : String} (h : Names literal word) :
    ∃ a tail, literal = a :: tail ∧ a ∈ ['n', '[', '\x7b'] := by
  cases h with
  | null => exact ⟨'n', _, rfl, by decide⟩
  | array => exact ⟨'[', _, rfl, by decide⟩
  | object => exact ⟨'\x7b', _, rfl, by decide⟩

theorem Names.not_spells {word text : String} (h : Names literal word) : ¬ Spells literal text := by
  intro hspells
  obtain ⟨a, tail, rfl, ha⟩ := h.head
  obtain ⟨b, tail', heq, hb⟩ := hspells.head
  exact hb ((List.cons.inj heq).1 ▸ ha)

theorem called_of_denotes {word : String} (h : Json.Denotes literal value)
    (hnames : Names literal word) :
    Called value word := by
  have hnone : ∀ text, ¬ StandsFor value text :=
    fun text hvalue => hnames.not_spells (spells_of_denotes h hvalue)
  cases hnames with
  | null =>
    cases h with
    | null => exact .null
    | number => exact absurd .number (hnone _)
    | text => exact absurd .text (hnone _)
  | array =>
    cases h with
    | list => exact .array
    | number => exact absurd .number (hnone _)
    | text => exact absurd .text (hnone _)
  | object =>
    cases h with
    | object => exact .object
    | number => exact absurd .number (hnone _)
    | text => exact absurd .text (hnone _)

/-- What becomes of a document, by the texts of its values. It is accepted when the last field of
each key is a single value, and then every key has what its last field stands for. Otherwise the
smallest key whose last field is something else is reported. -/
structure ReadByTexts (fields : List (String × List Char)) (path : String)
    (read : Except Error (List (String × String))) : Prop where
  accepted : (∃ texts, read = .ok texts) ↔
    ∀ key literal, LastEntry fields key literal → ∃ text, Spells literal text
  keys : ∀ texts, read = .ok texts →
    (texts.map (·.1)).Nodup ∧ ∀ key, key ∈ texts.map (·.1) ↔ key ∈ fields.map (·.1)
  values : ∀ texts, read = .ok texts → ∀ key literal text, LastEntry fields key literal →
    (key, text) ∈ texts → Spells literal text
  reported : ∀ error, read = .error error → ∃ key literal found, LastEntry fields key literal ∧
    Names literal found.message ∧ error = .secretsFile path none none (.notScalar key found) ∧
    ∀ other literal word, LastEntry fields other literal → Names literal word →
      other = key ∨ Text.bytesOf key < Text.bytesOf other

/-- **The members are those of the text**, so what becomes of a document can be told from its
fields. -/
theorem readByTexts_of_isDocument {content : String} (root path : String)
    (hdocument : Json.IsDocument fields content.toList)
    (hmembers : Json.readObject content = .ok members) :
    ReadByTexts fields path ((Store.mk root .json).readPlain path content) := by
  have hmatches := Json.matches_of_isDocument hdocument hmembers
  cases hscalars : scalars members with
  | ok texts =>
    obtain ⟨hdistinct, hkeys, hall, hmem⟩ := scalars_of_ok hscalars
    rw [Store.readPlain_json_of_ok hmembers hscalars]
    constructor
    case accepted =>
      refine iff_of_true ⟨texts, rfl⟩ ?_
      intro key literal hlast
      obtain ⟨value, hvalue, hdenotes⟩ := exists_lastEntry_of_field hmatches hlast
      obtain ⟨text, htext⟩ := hall key value hvalue
      exact ⟨text, spells_of_denotes hdenotes htext⟩
    case keys =>
      rintro texts ⟨⟩
      rw [map_fst_of_matches hmatches]
      exact ⟨hdistinct, hkeys⟩
    case values =>
      rintro texts ⟨⟩ key literal text hlast htext
      obtain ⟨value, hvalue, hstands⟩ := (hmem key text).mp htext
      obtain ⟨value', hvalue', hdenotes⟩ := exists_lastEntry_of_field hmatches hlast
      rw [← lastValue?_eq_some_iff] at hvalue hvalue'
      obtain rfl : value = value' := Option.some.inj (hvalue.symm.trans hvalue')
      exact spells_of_denotes hdenotes hstands
    case reported => rintro error ⟨⟩
  | error fault =>
    obtain ⟨key, value, found, hlast, hcalled, rfl, hleast⟩ := scalars_of_error hscalars
    obtain ⟨literal, hfield, hdenotes⟩ := exists_field_of_lastEntry hmatches hlast
    have hnames := names_of_denotes hdenotes hcalled
    rw [Store.readPlain_json_of_error hmembers hscalars]
    constructor
    case accepted =>
      refine iff_of_false ?_ ?_
      · rintro ⟨texts, ⟨⟩⟩
      · intro hall
        obtain ⟨text, hspells⟩ := hall key literal hfield
        exact hnames.not_spells hspells
    case keys => rintro texts ⟨⟩
    case values => rintro texts ⟨⟩
    case reported =>
      rintro error ⟨⟩
      refine ⟨key, literal, found, hfield, hnames, rfl, ?_⟩
      intro other literal word hother hword
      obtain ⟨value, hvalue, hdenotes⟩ := exists_lastEntry_of_field hmatches hother
      exact hleast other value word hvalue (called_of_denotes hdenotes hword)

end Documents

/-- **Only the last member of a key counts.** An object is accepted when the last member of each key
is a text, a number or a truth value, and then every key has what that member stands for. Otherwise
the smallest such key is reported, without a place. A content that is no object is reported with its
place. The members are those that the content is written with. -/
theorem single_values_by_last_member (root path content : String) :
    let read := (Store.mk root .json).readPlain path content
    (∀ members, Json.readObject content = .ok members →
      ((∃ texts, read = .ok texts) ↔
        ∀ key value, LastEntry members key value → ∃ text, StandsFor value text) ∧
      (∀ texts, read = .ok texts →
        (texts.map (·.1)).Nodup ∧ (∀ key, key ∈ texts.map (·.1) ↔ key ∈ members.map (·.1)) ∧
        ∀ key text, (key, text) ∈ texts ↔
          ∃ value, LastEntry members key value ∧ StandsFor value text) ∧
      ∀ error, read = .error error →
        ∃ key value found, LastEntry members key value ∧ Called value found.message ∧
        error = .secretsFile path none none (.notScalar key found) ∧
        ∀ other value word, LastEntry members other value → Called value word →
          other = key ∨ Text.bytesOf key < Text.bytesOf other) ∧
    (∀ error, Json.readObject content = .error error →
      read = .error (.secretsFile path (some error.position.line) (some error.position.column)
        (.json error))) ∧
    ∀ fields members, Json.IsDocument fields content.toList →
      Json.readObject content = .ok members →
      ReadByTexts fields path read := by
  intro read
  refine ⟨?_, ?_, fun fields members => readByTexts_of_isDocument root path⟩
  · intro members hmembers
    cases hscalars : scalars members with
    | ok texts =>
      obtain ⟨hdistinct, hkeys, hall, hmem⟩ := scalars_of_ok hscalars
      rw [show read = .ok texts from Store.readPlain_json_of_ok hmembers hscalars]
      refine ⟨⟨fun _ => hall, fun _ => ⟨texts, rfl⟩⟩, ?_, ?_⟩
      · rintro texts ⟨⟩
        exact ⟨hdistinct, hkeys, hmem⟩
      · rintro error ⟨⟩
    | error fault =>
      obtain ⟨key, value, found, hlast, hcalled, rfl, hleast⟩ := scalars_of_error hscalars
      rw [show read = .error (.secretsFile path none none (.notScalar key found)) from
        Store.readPlain_json_of_error hmembers hscalars]
      refine ⟨⟨?_, ?_⟩, ?_, ?_⟩
      · rintro ⟨texts, ⟨⟩⟩
      · intro hall
        obtain ⟨text, htext⟩ := hall key value hlast
        exact absurd htext hcalled.not_standsFor
      · rintro texts ⟨⟩
      · rintro error ⟨⟩
        exact ⟨key, value, found, hlast, hcalled, rfl, hleast⟩
  · intro error herror
    simp only [read, Store.readPlain, herror]

/-- A later member can hide a null, and bring one in. -/
example :
    (Store.mk "vault" .json).readPlain "vault/demo.json"
        "\x7b\"b\": null, \"a\": 7, \"b\": true\x7d" =
      .ok [("a", "7"), ("b", "true")] ∧
    (Store.mk "vault" .json).readPlain "vault/demo.json"
        "\x7b\"z\": [], \"a\": 7, \"a\": \x7b\x7d\x7d" =
      .error (.secretsFile "vault/demo.json" none none (.notScalar "a" .object)) := by
  decide +kernel

end Objects

end AppRelease.Secrets
