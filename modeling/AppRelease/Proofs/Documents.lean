import AppRelease.Proofs.Grammar
import Mathlib.Data.List.Forall2

/-!
# Documents as the format has them

Program: `readObject` reads the members of an object from a text, whatever their values are.

Specification: `IsDocument` has the rules of the format (RFC 8259) for a text that is an object,
with the key of each member and the text of its value. `matches_of_isDocument` says that such a
text, if it is read at all, is read as these members: in their order, none left out, and each value
as what its text stands for (`Denotes`).

1. **One induction.** Lists and objects hold values, and values are lists and objects. `Written` is
   one relation for all of them, with the part of the format as an index.
2. **Ends.** A number ends only where something else follows, so a part is followed by what may end
   a value (`Ends`).
3. **The crux.** The items of a list have no reader of their own: the first is read apart from the
   others, which start with a comma. `Follows` says for each part what is read in one go, and
   `follows_of_written` has one case for each rule.
-/

namespace AppRelease.Json

/-! ## The format -/

/-- What stands before the value of a member. -/
inductive IsLead (key : String) : List Char → Prop where
  | mk {before text gap after : List Char} : IsSpace before → SpellsText key text →
      IsSpace gap → IsSpace after →
      IsLead key (before ++ (text ++ (gap ++ ':' :: after)))

/-- The parts of a document: a value, the items of a list, or the members of an object, each with
its key and the text of its value. -/
inductive Part where
  | value
  | items
  | members (fields : List (String × List Char))

/-- The rules of the format. -/
inductive Written : Part → List Char → Prop where
  | null : Written .value ['n', 'u', 'l', 'l']
  | yes : Written .value ['t', 'r', 'u', 'e']
  | no : Written .value ['f', 'a', 'l', 's', 'e']
  | number {text : List Char} : IsNumber text → Written .value text
  | text {s : String} {text : List Char} : SpellsText s text → Written .value text
  | emptyList {inner : List Char} : IsSpace inner → Written .value ('[' :: (inner ++ [']']))
  | list {inner : List Char} : Written .items inner → Written .value ('[' :: (inner ++ [']']))
  | emptyObject {inner : List Char} : IsSpace inner → Written .value ('\x7b' :: (inner ++ ['\x7d']))
  | object {fields : List (String × List Char)} {inner : List Char} :
      Written (.members fields) inner →
      Written .value ('\x7b' :: (inner ++ ['\x7d']))
  | oneItem {before text after : List Char} : IsSpace before → Written .value text → IsSpace after →
      Written .items (before ++ (text ++ after))
  | moreItems {before text after others : List Char} :
      IsSpace before → Written .value text → IsSpace after → Written .items others →
      Written .items (before ++ (text ++ (after ++ ',' :: others)))
  | oneMember {key : String} {lead text after : List Char} :
      IsLead key lead → Written .value text → IsSpace after →
      Written (.members [(key, text)]) (lead ++ (text ++ after))
  | moreMembers {key : String} {fields : List (String × List Char)}
      {lead text after others : List Char} :
      IsLead key lead → Written .value text → IsSpace after → Written (.members fields) others →
      Written (.members ((key, text) :: fields)) (lead ++ (text ++ (after ++ ',' :: others)))

/-- A text that is an object, with space around it. -/
inductive IsDocument : List (String × List Char) → List Char → Prop where
  | empty {before inner after : List Char} : IsSpace before → IsSpace inner → IsSpace after →
      IsDocument [] (before ++ '\x7b' :: (inner ++ '\x7d' :: after))
  | members {fields : List (String × List Char)} {before inner after : List Char} :
      IsSpace before → Written (.members fields) inner → IsSpace after →
      IsDocument fields (before ++ '\x7b' :: (inner ++ '\x7d' :: after))

/-! ## Values -/

/-- A number that is read from a text, wherever it stands. -/
def ReadsNumber (text : List Char) (n : Number) : Prop :=
  ∃ rest c c', Ends rest ∧ c.rest = text ++ rest ∧ readNumber c = .ok (n, c')

/-- What a value is, by its text. Of lists and objects only their kind is said. -/
inductive Denotes : List Char → Value → Prop where
  | null : Denotes ['n', 'u', 'l', 'l'] .null
  | yes : Denotes ['t', 'r', 'u', 'e'] (.boolean true)
  | no : Denotes ['f', 'a', 'l', 's', 'e'] (.boolean false)
  | number {text : List Char} {n : Number} : IsNumber text → ReadsNumber text n →
      Denotes text (.number n)
  | text {s : String} {text : List Char} : SpellsText s text → Denotes text (.text s)
  | list {inner : List Char} {items : List Value} : Denotes ('[' :: inner) (.array items)
  | object {inner : List Char} {members : List (String × Value)} :
      Denotes ('\x7b' :: inner) (.object members)

/-- A member that is read from a key and the text of a value. -/
def Matches (field : String × List Char) (member : String × Value) : Prop :=
  field.1 = member.1 ∧ Denotes field.2 member.2

/-- The characters that a value can start with. -/
def Starts (a : Char) : Prop := a ∈ ['n', 't', 'f', '"', '[', '\x7b', '-'] ∨ a.isDigit = true

theorem Starts.ne {a b : Char} (ha : Starts a) (hb : b ∈ endChars) : a ≠ b := by
  have hends : endChars.all
      (fun b => decide (b ∉ ['n', 't', 'f', '"', '[', '\x7b', '-']) && !b.isDigit) = true := by
    decide
  have hboth := List.all_eq_true.mp hends b hb
  rw [Bool.and_eq_true, decide_eq_true_eq, Bool.not_eq_true'] at hboth
  rcases ha with ha | ha
  · rintro rfl
    exact hboth.1 ha
  · exact ne_of_isDigit ha hboth.2

theorem Starts.isSpace_eq_false {a : Char} (ha : Starts a) : Cursor.isSpace a = false := by
  cases hspace : Cursor.isSpace a with
  | false => rfl
  | true =>
    exact absurd rfl (ha.ne (List.mem_append_left [',', ']', '\x7d'] (isSpace_iff.mp hspace)))

theorem IsNumber.head {text : List Char} (h : IsNumber text) :
    ∃ a tail, text = a :: tail ∧ (a = '-' ∨ a.isDigit = true) := by
  obtain ⟨hwhole, -, -⟩ := h
  cases hwhole with
  | minus => exact ⟨'-', _, rfl, .inl rfl⟩
  | plain hwhole =>
    obtain ⟨first, others, rfl⟩ := hwhole.cons
    exact ⟨first, _, rfl, .inr (hwhole.isDigit first List.mem_cons_self)⟩

theorem starts_of_number {a : Char} (h : a = '-' ∨ a.isDigit = true) : Starts a := by
  rcases h with rfl | h
  · exact .inl (by decide)
  · exact .inr h

theorem Written.head {text : List Char} (h : Written .value text) :
    ∃ a tail, text = a :: tail ∧ Starts a := by
  cases h with
  | number h =>
    obtain ⟨a, tail, rfl, ha⟩ := h.head
    exact ⟨a, tail, rfl, starts_of_number ha⟩
  | text h =>
    obtain ⟨tail, rfl⟩ := h.head
    exact ⟨'"', tail, rfl, .inl (by decide)⟩
  | _ => exact ⟨_, _, rfl, .inl (by decide)⟩

/-! ### Parts -/

/-- What it means that a part is followed to its end. The items of a list and the members of an
object are read in two steps, the first and then the others. -/
def Follows : Part → List Char → Prop
  | .value, text => ∀ {depth : Nat} {c c' : Cursor} {v : Value} {rest : List Char}, Ends rest →
      c.rest = text ++ rest →
      readValue depth c = .ok (v, c') → c'.rest = rest ∧ Denotes text v
  | .items, inner => ∀ {depth fuel : Nat} {c c₁ c' : Cursor} {first : Value}
      {others : List Value} {rest : List Char}, c.rest = inner ++ ']' :: rest →
        readValue depth c.skipSpace = .ok (first, c₁) →
      readItems (readValue depth) fuel c₁ = .ok (others, c') → c'.rest = rest
  | .members fields, inner => ∀ {depth fuel : Nat} {c c₁ c' : Cursor} {first : String × Value}
      {others : List (String × Value)} {rest : List Char}, c.rest = inner ++ '\x7d' :: rest →
      readMember (readValue depth) c.skipSpace = .ok (first, c₁) →
      readMembers (readValue depth) fuel c₁ = .ok (others, c') →
      c'.rest = rest ∧ List.Forall₂ Matches fields (first :: others)

section Values

variable {depth fuel : Nat} {c c₁ c' : Cursor} {v : Value} {rest : List Char}

theorem Reads.at {α : Type} {reader : Cursor → Except Error (α × Cursor)} {text : List Char}
    {value : α} (h : Reads reader text value) (hc : c.rest = text ++ rest) :
    ∃ d : Cursor, d.rest = rest ∧ reader c = .ok (value, d) := by
  obtain ⟨q, hq⟩ := h rest c.position
  rw [← hc] at hq
  exact ⟨⟨rest, q⟩, rfl, hq⟩

theorem readWord_eq_ok {letters : List Char} (h : readWord c letters = .ok c') :
    c.rest = letters ++ c'.rest := by
  induction letters generalizing c with
  | nil =>
    rw [Except.ok.inj h]
    rfl
  | cons a letters ih =>
    rw [readWord] at h
    split at h
    next => exact absurd h Cursor.fail_ne_ok
    next b tail hrest =>
      split at h
      next hab =>
        have htail : (c.skip 1).rest = tail := Cursor.rest_skip_one hrest
        rw [hrest, ← hab, List.cons_append, ← ih h, htail]
      next => exact absurd h Cursor.failAhead_ne_ok

theorem readWord_rest {a : Char} {letters : List Char} (hc : c.rest = (a :: letters) ++ rest)
    (h : readWord (c.skip 1) letters = .ok c') : c'.rest = rest := by
  have hskip : (c.skip 1).rest = letters ++ rest := Cursor.rest_skip_one hc
  exact List.append_cancel_left ((readWord_eq_ok h).symm.trans hskip)

/-- A value is not read unless a level is left, and space before it is passed over. -/
theorem readValue_cases {a : Char} {tail : List Char} (ha : Starts a) (hc : c.rest = a :: tail)
    (h : readValue depth c = .ok (v, c')) : ∃ level, depth = level + 1 ∧ c.skipSpace = c := by
  cases depth with
  | zero => exact absurd h Cursor.failAhead_ne_ok
  | succ level => exact ⟨level, rfl, Cursor.skipSpace_eq_self ha.isSpace_eq_false hc⟩

theorem follows_word {a : Char} {letters : List Char} {value : Value} (ha : Starts a)
    (hword : ∀ {level : Nat} {c : Cursor} {tail : List Char}, c.skipSpace = c → c.rest = a :: tail →
      readValue (level + 1) c = (readWord (c.skip 1) letters).bind fun c => .ok (value, c))
    (hvalue : Denotes (a :: letters) value) : Follows .value (a :: letters) := by
  intro depth c c' v rest hrest hc h
  obtain ⟨level, rfl, hskip⟩ := readValue_cases ha hc h
  rw [hword hskip hc] at h
  obtain ⟨d, hd, hv⟩ := bind_eq_ok_iff.mp h
  obtain ⟨rfl, rfl⟩ := Prod.mk.inj (Except.ok.inj hv)
  exact ⟨readWord_rest hc hd, hvalue⟩

theorem follows_null : Follows .value ['n', 'u', 'l', 'l'] := by
  refine follows_word (.inl (by decide)) ?_ .null
  intro level c tail hskip hc
  simp only [readValue, hskip, hc]
  rfl

theorem follows_yes : Follows .value ['t', 'r', 'u', 'e'] := by
  refine follows_word (.inl (by decide)) ?_ .yes
  intro level c tail hskip hc
  simp only [readValue, hskip, hc]
  rfl

theorem follows_no : Follows .value ['f', 'a', 'l', 's', 'e'] := by
  refine follows_word (.inl (by decide)) ?_ .no
  intro level c tail hskip hc
  simp only [readValue, hskip, hc]
  rfl

theorem follows_text {s : String} {text : List Char} (htext : SpellsText s text) :
    Follows .value text := by
  intro depth c c' v rest hrest hc h
  obtain ⟨tail, rfl⟩ := htext.head
  obtain ⟨level, rfl, hskip⟩ := readValue_cases (.inl (by decide)) hc h
  obtain ⟨d, hd, hread⟩ := (readText_of_spells htext).at hc
  simp only [readValue, hskip, hc, List.cons_append, hread] at h
  obtain ⟨rfl, rfl⟩ := Prod.mk.inj (Except.ok.inj h)
  exact ⟨hd, .text htext⟩

theorem readValue_number {a : Char} {tail : List Char} {level : Nat}
    (ha : a = '-' ∨ a.isDigit = true) (hskip : c.skipSpace = c) (hc : c.rest = a :: tail) :
    readValue (level + 1) c = (readNumber c).bind fun (n, c) => .ok (.number n, c) := by
  have hne : ∀ b ∈ ['n', 't', 'f', '"', '[', '\x7b'], a ≠ b := by
    have hother :
        ['n', 't', 'f', '"', '[', '\x7b'].all (fun b => decide ('-' ≠ b) && !b.isDigit) =
        true := by decide
    intro b hb
    have hboth := List.all_eq_true.mp hother b hb
    rw [Bool.and_eq_true, decide_eq_true_eq, Bool.not_eq_true'] at hboth
    rcases ha with rfl | ha
    · exact hboth.1
    · exact ne_of_isDigit ha hboth.2
  simp only [readValue, hskip]
  split
  next heq => exact absurd (hc.symm.trans heq) (by simp)
  next heq => exact absurd (List.cons.inj (hc.symm.trans heq)).1 (hne _ (by decide))
  next heq => exact absurd (List.cons.inj (hc.symm.trans heq)).1 (hne _ (by decide))
  next heq => exact absurd (List.cons.inj (hc.symm.trans heq)).1 (hne _ (by decide))
  next heq => exact absurd (List.cons.inj (hc.symm.trans heq)).1 (hne _ (by decide))
  next heq => exact absurd (List.cons.inj (hc.symm.trans heq)).1 (hne _ (by decide))
  next heq => exact absurd (List.cons.inj (hc.symm.trans heq)).1 (hne _ (by decide))
  next heq =>
    obtain ⟨rfl, -⟩ := List.cons.inj (hc.symm.trans heq)
    rw [if_pos (by simpa using ha)]
    rfl

theorem follows_number {text : List Char} (htext : IsNumber text) : Follows .value text := by
  intro depth c c' v rest hrest hc h
  obtain ⟨a, tail, rfl, ha⟩ := htext.head
  obtain ⟨level, rfl, hskip⟩ := readValue_cases (starts_of_number ha) hc h
  rw [readValue_number ha hskip hc] at h
  obtain ⟨⟨n, d⟩, hd, hv⟩ := bind_eq_ok_iff.mp h
  obtain ⟨rfl, rfl⟩ := Prod.mk.inj (Except.ok.inj hv)
  exact ⟨rest_readNumber htext hrest hc hd, .number htext ⟨rest, c, d, hrest, hc, hd⟩⟩

/-! ### Lists -/

theorem rest_readItems_end {α : Type} {item : Cursor → Except Error (α × Cursor)}
    {others : List α} {after : List Char} (hafter : IsSpace after)
    (hc : c.rest = after ++ ']' :: rest) (h : readItems item fuel c = .ok (others, c')) :
    c'.rest = rest := by
  have hskip : c.skipSpace.rest = ']' :: rest := Cursor.rest_skipSpace_before hafter (by decide) hc
  cases fuel with
  | zero => exact absurd h Cursor.fail_ne_ok
  | succ fuel =>
    simp only [readItems, hskip] at h
    obtain ⟨-, rfl⟩ := Prod.mk.inj (Except.ok.inj h)
    exact Cursor.rest_skip_one hskip

theorem readItems_more {α : Type} {item : Cursor → Except Error (α × Cursor)}
    {others : List α} {after tail : List Char} (hafter : IsSpace after)
    (hc : c.rest = after ++ ',' :: tail) (h : readItems item fuel c = .ok (others, c')) :
    ∃ (fuel : Nat) (d d₁ : Cursor) (next : α) (more : List α), d.rest = tail ∧
      item d.skipSpace = .ok (next, d₁) ∧ readItems item fuel d₁ = .ok (more, c') := by
  have hskip : c.skipSpace.rest = ',' :: tail := Cursor.rest_skipSpace_before hafter (by decide) hc
  cases fuel with
  | zero => exact absurd h Cursor.fail_ne_ok
  | succ fuel =>
    simp only [readItems, hskip] at h
    split at h
    next => exact absurd h Cursor.fail_ne_ok
    next => exact absurd h Cursor.failAhead_ne_ok
    next =>
      obtain ⟨⟨next, d₁⟩, hitem, h⟩ := bind_eq_ok_iff.mp h
      obtain ⟨⟨more, d₂⟩, hmore, h⟩ := bind_eq_ok_iff.mp h
      obtain ⟨-, rfl⟩ := Prod.mk.inj (Except.ok.inj h)
      exact ⟨fuel, c.skipSpace.skip 1, d₁, next, more, Cursor.rest_skip_one hskip, hitem, hmore⟩

/-- A value after space is followed as the value is. -/
theorem Follows.after_space {space text : List Char} (hvalue : Follows .value text)
    (htext : Written .value text) (hspace : IsSpace space) (hrest : Ends rest)
    (hc : c.rest = space ++ (text ++ rest)) (h : readValue depth c.skipSpace = .ok (v, c')) :
    c'.rest = rest ∧ Denotes text v := by
  obtain ⟨a, tail, rfl, ha⟩ := htext.head
  exact hvalue hrest (Cursor.rest_skipSpace_before hspace ha.isSpace_eq_false hc) h

theorem follows_oneItem {before text after : List Char} (hbefore : IsSpace before)
    (htext : Written .value text) (hvalue : Follows .value text) (hafter : IsSpace after) :
    Follows .items (before ++ (text ++ after)) := by
  intro depth fuel c c₁ c' first others rest hc hfirst hothers
  simp only [List.append_assoc] at hc
  obtain ⟨h₁, -⟩ := hvalue.after_space htext hbefore (ends_append hafter (by decide)) hc hfirst
  exact rest_readItems_end hafter h₁ hothers

theorem follows_moreItems {before text after inner : List Char} (hbefore : IsSpace before)
    (htext : Written .value text) (hvalue : Follows .value text) (hafter : IsSpace after)
    (hinner : Follows .items inner) :
    Follows .items (before ++ (text ++ (after ++ ',' :: inner))) := by
  intro depth fuel c c₁ c' first others rest hc hfirst hothers
  simp only [List.append_assoc, List.cons_append] at hc
  obtain ⟨h₁, -⟩ :=
    hvalue.after_space htext hbefore (ends_append hafter (by decide)) hc hfirst
  obtain ⟨fuel, d, d₁, next, more, hd, hnext, hmore⟩ := readItems_more hafter h₁ hothers
  exact hinner hd hnext hmore

theorem Written.items_head {inner : List Char} (h : Written .items inner) :
    ∃ before a tail, IsSpace before ∧ inner = before ++ a :: tail ∧ Starts a := by
  cases h with
  | oneItem hbefore htext =>
    obtain ⟨a, tail, rfl, ha⟩ := htext.head
    exact ⟨_, a, _, hbefore, rfl, ha⟩
  | moreItems hbefore htext =>
    obtain ⟨a, tail, rfl, ha⟩ := htext.head
    exact ⟨_, a, _, hbefore, rfl, ha⟩

theorem rest_readList_empty {items : List Value} {inner : List Char} (hinner : IsSpace inner)
    (hc : c.rest = inner ++ ']' :: rest) (h : readList (readValue depth) c = .ok (items, c')) :
    c'.rest = rest := by
  have hskip : c.skipSpace.rest = ']' :: rest := Cursor.rest_skipSpace_before hinner (by decide) hc
  simp only [readList, hskip] at h
  obtain ⟨-, rfl⟩ := Prod.mk.inj (Except.ok.inj h)
  exact Cursor.rest_skip_one hskip

theorem rest_readList {items : List Value} {inner : List Char} (hinner : Written .items inner)
    (hfollows : Follows .items inner) (hc : c.rest = inner ++ ']' :: rest)
    (h : readList (readValue depth) c = .ok (items, c')) : c'.rest = rest := by
  obtain ⟨before, a, tail, hbefore, rfl, ha⟩ := hinner.items_head
  have hskip : c.skipSpace.rest = a :: (tail ++ ']' :: rest) := by
    refine Cursor.rest_skipSpace_before hbefore ha.isSpace_eq_false ?_
    rw [hc, List.append_assoc, List.cons_append]
  simp only [readList] at h
  split at h
  next => exact absurd h Cursor.fail_ne_ok
  next heq => exact absurd (List.cons.inj (hskip.symm.trans heq)).1 (ha.ne (by decide))
  next =>
    obtain ⟨⟨first, c₁⟩, hfirst, h⟩ := bind_eq_ok_iff.mp h
    obtain ⟨⟨others, c₂⟩, hothers, h⟩ := bind_eq_ok_iff.mp h
    obtain ⟨-, rfl⟩ := Prod.mk.inj (Except.ok.inj h)
    exact hfollows hc hfirst hothers

/-- A value with brackets is followed if what is between them is. -/
theorem follows_list {inner : List Char}
    (hinner : ∀ {level : Nat} {c c' : Cursor} {items : List Value}
      {rest : List Char}, c.rest = inner ++ ']' :: rest →
      readList (readValue level) c = .ok (items, c') → c'.rest = rest) :
    Follows .value ('[' :: (inner ++ [']'])) := by
  intro depth c c' v rest hrest hc h
  simp only [List.append_assoc, List.cons_append, List.nil_append] at hc
  obtain ⟨level, rfl, hskip⟩ := readValue_cases (.inl (by decide)) hc h
  simp only [readValue, hskip, hc] at h
  split at h
  · exact absurd h Cursor.failAhead_ne_ok
  obtain ⟨⟨items, d⟩, hlist, h⟩ := bind_eq_ok_iff.mp h
  obtain ⟨rfl, rfl⟩ := Prod.mk.inj (Except.ok.inj h)
  exact ⟨hinner (Cursor.rest_skip_one hc) hlist, .list⟩

/-! ### Objects -/

theorem rest_readMembers_end {α : Type} {item : Cursor → Except Error (α × Cursor)}
    {others : List (String × α)} {after : List Char} (hafter : IsSpace after)
    (hc : c.rest = after ++ '\x7d' :: rest) (h : readMembers item fuel c = .ok (others, c')) :
    c'.rest = rest ∧ others = [] := by
  have hskip : c.skipSpace.rest = '\x7d' :: rest :=
    Cursor.rest_skipSpace_before hafter (by decide) hc
  cases fuel with
  | zero => exact absurd h Cursor.fail_ne_ok
  | succ fuel =>
    simp only [readMembers, hskip] at h
    obtain ⟨rfl, rfl⟩ := Prod.mk.inj (Except.ok.inj h)
    exact ⟨Cursor.rest_skip_one hskip, rfl⟩

theorem readMembers_more {α : Type} {item : Cursor → Except Error (α × Cursor)}
    {others : List (String × α)} {after tail : List Char} (hafter : IsSpace after)
    (hc : c.rest = after ++ ',' :: tail) (h : readMembers item fuel c = .ok (others, c')) :
    ∃ (fuel : Nat) (d d₁ : Cursor) (next : String × α) (more : List (String × α)), d.rest = tail ∧
      readMember item d.skipSpace = .ok (next, d₁) ∧ readMembers item fuel d₁ = .ok (more, c') ∧
      others = next :: more := by
  have hskip : c.skipSpace.rest = ',' :: tail := Cursor.rest_skipSpace_before hafter (by decide) hc
  cases fuel with
  | zero => exact absurd h Cursor.fail_ne_ok
  | succ fuel =>
    simp only [readMembers, hskip] at h
    split at h
    next => exact absurd h Cursor.fail_ne_ok
    next =>
      obtain ⟨⟨next, d₁⟩, hmember, h⟩ := bind_eq_ok_iff.mp h
      obtain ⟨⟨more, d₂⟩, hmore, h⟩ := bind_eq_ok_iff.mp h
      obtain ⟨rfl, rfl⟩ := Prod.mk.inj (Except.ok.inj h)
      exact ⟨fuel, c.skipSpace.skip 1, d₁, next, more, Cursor.rest_skip_one hskip, hmember,
        hmore, rfl⟩
    next => exact absurd h Cursor.failAhead_ne_ok
    next => exact absurd h Cursor.failAhead_ne_ok

theorem IsLead.head {key : String} {lead : List Char} (h : IsLead key lead) :
    ∃ before tail, IsSpace before ∧ lead = before ++ '"' :: tail := by
  obtain ⟨hbefore, htext, -, -⟩ := h
  obtain ⟨tail, rfl⟩ := htext.head
  exact ⟨_, _, hbefore, rfl⟩

/-- Space before a value is passed over by the reader of values itself. -/
theorem readValue_skipSpace {space tail : List Char} {a : Char} (hspace : IsSpace space)
    (ha : Starts a) (hc : c.rest = space ++ a :: tail) (h : readValue depth c = .ok (v, c')) :
    readValue depth c.skipSpace = .ok (v, c') := by
  have hskip : c.skipSpace.rest = a :: tail :=
    Cursor.rest_skipSpace_before hspace ha.isSpace_eq_false hc
  have hagain : c.skipSpace.skipSpace = c.skipSpace :=
    Cursor.skipSpace_eq_self ha.isSpace_eq_false hskip
  cases depth with
  | zero => exact absurd h Cursor.failAhead_ne_ok
  | succ level =>
    rw [readValue, hagain]
    rw [readValue] at h
    exact h

theorem Follows.member {key : String} {lead text : List Char} {member : String × Value}
    (hvalue : Follows .value text) (htext : Written .value text) (hlead : IsLead key lead)
    (hrest : Ends rest) (hc : c.rest = lead ++ (text ++ rest))
    (h : readMember (readValue depth) c.skipSpace = .ok (member, c')) :
    c'.rest = rest ∧ Matches (key, text) member := by
  obtain @⟨before, keyText, gap, after, hbefore, hkey, hgap, hafter⟩ := hlead
  simp only [List.append_assoc, List.cons_append] at hc
  have hskip : c.skipSpace.rest = keyText ++ (gap ++ ':' :: (after ++ (text ++ rest))) := by
    obtain ⟨tail, rfl⟩ := hkey.head
    exact Cursor.rest_skipSpace_before hbefore (by decide) hc
  obtain ⟨d, hd, hread⟩ := (readText_of_spells hkey).at hskip
  have hcolon : d.skipSpace.rest = ':' :: (after ++ (text ++ rest)) :=
    Cursor.rest_skipSpace_before hgap (by decide) hd
  have hafterColon : (d.skipSpace.skip 1).rest = after ++ (text ++ rest) :=
    Cursor.rest_skip_one hcolon
  simp only [readMember, hread, bind, Except.bind, hcolon] at h
  obtain ⟨⟨value, d₁⟩, hitem, h⟩ := bind_eq_ok_iff.mp h
  obtain ⟨rfl, rfl⟩ := Prod.mk.inj (Except.ok.inj h)
  obtain ⟨a, tail, rfl, ha⟩ := htext.head
  obtain ⟨hdone, hdenotes⟩ :=
    hvalue.after_space htext hafter hrest hafterColon
      (readValue_skipSpace hafter ha hafterColon hitem)
  exact ⟨hdone, rfl, hdenotes⟩

theorem follows_oneMember {key : String} {lead text after : List Char} (hlead : IsLead key lead)
    (htext : Written .value text) (hvalue : Follows .value text) (hafter : IsSpace after) :
    Follows (.members [(key, text)]) (lead ++ (text ++ after)) := by
  intro depth fuel c c₁ c' first others rest hc hfirst hothers
  simp only [List.append_assoc] at hc
  obtain ⟨h₁, hmatch⟩ := hvalue.member htext hlead (ends_append hafter (by decide)) hc hfirst
  obtain ⟨hdone, rfl⟩ := rest_readMembers_end hafter h₁ hothers
  exact ⟨hdone, .cons hmatch .nil⟩

theorem follows_moreMembers {key : String} {fields : List (String × List Char)}
    {lead text after inner : List Char} (hlead : IsLead key lead) (htext : Written .value text)
    (hvalue : Follows .value text) (hafter : IsSpace after)
    (hinner : Follows (.members fields) inner) :
    Follows (.members ((key, text) :: fields)) (lead ++ (text ++ (after ++ ',' :: inner))) := by
  intro depth fuel c c₁ c' first others rest hc hfirst hothers
  simp only [List.append_assoc, List.cons_append] at hc
  obtain ⟨h₁, hmatch⟩ := hvalue.member htext hlead (ends_append hafter (by decide)) hc hfirst
  obtain ⟨fuel, d, d₁, next, more, hd, hnext, hmore, rfl⟩ := readMembers_more hafter h₁ hothers
  obtain ⟨hdone, hmatches⟩ := hinner hd hnext hmore
  exact ⟨hdone, .cons hmatch hmatches⟩

theorem Written.members_head {fields : List (String × List Char)} {inner : List Char}
    (h : Written (.members fields) inner) :
    ∃ before tail, IsSpace before ∧ inner = before ++ '"' :: tail := by
  cases h with
  | oneMember hlead =>
    obtain ⟨before, tail, hbefore, rfl⟩ := hlead.head
    exact ⟨before, _, hbefore, List.append_assoc _ _ _⟩
  | moreMembers hlead =>
    obtain ⟨before, tail, hbefore, rfl⟩ := hlead.head
    exact ⟨before, _, hbefore, List.append_assoc _ _ _⟩

theorem readObjectBody_empty {members : List (String × Value)} {inner : List Char}
    (hinner : IsSpace inner) (hc : c.rest = inner ++ '\x7d' :: rest)
    (h : readObjectBody (readValue depth) c = .ok (members, c')) :
    c'.rest = rest ∧ members = [] := by
  have hskip : c.skipSpace.rest = '\x7d' :: rest :=
    Cursor.rest_skipSpace_before hinner (by decide) hc
  simp only [readObjectBody, hskip] at h
  obtain ⟨rfl, rfl⟩ := Prod.mk.inj (Except.ok.inj h)
  exact ⟨Cursor.rest_skip_one hskip, rfl⟩

theorem readObjectBody_members {fields : List (String × List Char)}
    {members : List (String × Value)} {inner : List Char}
    (hinner : Written (.members fields) inner) (hfollows : Follows (.members fields) inner)
    (hc : c.rest = inner ++ '\x7d' :: rest)
    (h : readObjectBody (readValue depth) c = .ok (members, c')) :
    c'.rest = rest ∧ List.Forall₂ Matches fields members := by
  obtain ⟨before, tail, hbefore, rfl⟩ := hinner.members_head
  have hskip : c.skipSpace.rest = '"' :: (tail ++ '\x7d' :: rest) := by
    refine Cursor.rest_skipSpace_before hbefore (by decide) ?_
    rw [hc, List.append_assoc, List.cons_append]
  simp only [readObjectBody, hskip] at h
  obtain ⟨⟨first, c₁⟩, hfirst, h⟩ := bind_eq_ok_iff.mp h
  obtain ⟨⟨others, c₂⟩, hothers, h⟩ := bind_eq_ok_iff.mp h
  obtain ⟨rfl, rfl⟩ := Prod.mk.inj (Except.ok.inj h)
  exact hfollows hc hfirst hothers

theorem expectEnd_eq_ok {α : Type} {value found : α} (h : expectEnd value c = .ok found) :
    value = found := by
  simp only [expectEnd] at h
  split at h
  · exact Except.ok.inj h
  · exact absurd h Cursor.failAhead_ne_ok

/-- A value with braces is followed if what is between them is. -/
theorem follows_object {inner : List Char}
    (hinner : ∀ {level : Nat} {c c' : Cursor} {members : List (String × Value)}
      {rest : List Char}, c.rest = inner ++ '\x7d' :: rest →
        readObjectBody (readValue level) c = .ok (members, c') → c'.rest = rest) :
    Follows .value ('\x7b' :: (inner ++ ['\x7d'])) := by
  intro depth c c' v rest hrest hc h
  simp only [List.append_assoc, List.cons_append, List.nil_append] at hc
  obtain ⟨level, rfl, hskip⟩ := readValue_cases (.inl (by decide)) hc h
  simp only [readValue, hskip, hc] at h
  split at h
  · exact absurd h Cursor.failAhead_ne_ok
  obtain ⟨⟨members, d⟩, hbody, h⟩ := bind_eq_ok_iff.mp h
  obtain ⟨rfl, rfl⟩ := Prod.mk.inj (Except.ok.inj h)
  exact ⟨hinner (Cursor.rest_skip_one hc) hbody, .object⟩

end Values

/-- **Every part is followed to its end**, one case for each rule of the format. -/
theorem follows_of_written {part : Part} {text : List Char} (h : Written part text) :
    Follows part text := by
  induction h with
  | null => exact follows_null
  | yes => exact follows_yes
  | no => exact follows_no
  | number h => exact follows_number h
  | text h => exact follows_text h
  | emptyList hinner => exact follows_list fun hc h => rest_readList_empty hinner hc h
  | list hinner ih => exact follows_list fun hc h => rest_readList hinner ih hc h
  | emptyObject hinner => exact follows_object fun hc h => (readObjectBody_empty hinner hc h).1
  | object hinner ih => exact follows_object fun hc h => (readObjectBody_members hinner ih hc h).1
  | oneItem hbefore htext hafter ih => exact follows_oneItem hbefore htext ih hafter
  | moreItems hbefore htext hafter _ ih ihOthers =>
    exact follows_moreItems hbefore htext ih hafter ihOthers
  | oneMember hlead htext hafter ih => exact follows_oneMember hlead htext ih hafter
  | moreMembers hlead htext hafter _ ih ihOthers =>
    exact follows_moreMembers hlead htext ih hafter ihOthers

/-- An object is read from its opening brace on, wherever that is. -/
theorem exists_body_of_readObject {text : String} {before inner : List Char}
    {members : List (String × Value)} (hbefore : IsSpace before)
    (htext : text.toList = before ++ '\x7b' :: inner) (h : readObject text = .ok members) :
    ∃ c c' : Cursor, c.rest = inner ∧
      readObjectBody (readValue (depthLimit - 1)) c = .ok (members, c') := by
  have hskip : (Cursor.start text.toList).skipSpace.rest = '\x7b' :: inner :=
    Cursor.rest_skipSpace_before hbefore (by decide) htext
  simp only [readObject, hskip] at h
  obtain ⟨⟨found, c'⟩, hbody, hend⟩ := bind_eq_ok_iff.mp h
  obtain rfl : found = members := expectEnd_eq_ok hend
  exact ⟨_, c', Cursor.rest_skip_one hskip, hbody⟩

/-- **A document that is read is read as the format has it**: its members in their order, and each
value as what its text stands for. -/
theorem matches_of_isDocument {fields : List (String × List Char)} {text : String}
    {members : List (String × Value)} (h : IsDocument fields text.toList)
    (hread : readObject text = .ok members) :
    List.Forall₂ Matches fields members := by
  generalize htext : text.toList = chars at h
  cases h with
  | empty hbefore hinner _ =>
    obtain ⟨c, c', hc, hbody⟩ := exists_body_of_readObject hbefore htext hread
    obtain ⟨-, rfl⟩ := readObjectBody_empty hinner hc hbody
    exact .nil
  | members hbefore hinner _ =>
    obtain ⟨c, c', hc, hbody⟩ := exists_body_of_readObject hbefore htext hread
    exact (readObjectBody_members hinner (follows_of_written hinner) hc hbody).2

end AppRelease.Json
