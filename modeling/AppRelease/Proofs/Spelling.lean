import AppRelease.Document
import AppRelease.Json.Reader
import AppRelease.Proofs.Laws

/-!
# Ways to write an object of texts

Program: `readObject` reads an object from a text. What is written as JSON can be written in many
ways: with space between any two parts, and with any character as itself, by a letter or by its
code.

Specification: `SpellsObject` has a rule for each way to write an object whose members are texts, as
the format (RFC 8259) has them. `readObject_of_spells` says that every one of them is read as its
members, in their order.

1. **Characters.** `SpellsChar` has four rules: the character itself, a letter after a backslash,
   the code in four hexadecimal digits, and two such codes for a character that needs more.
   `readChars_of_spells` follows them.
2. **Space.** It can be skipped in one way only, since no part starts with space
   (`skipSpace_of_isSpace`).
3. **The crux.** A reader gives back a place as well, and no statement here wants to know it. So all
   of them are of one form, `Reads`: from some text and whatever follows, a value is read and what
   follows is left, somewhere.
-/

namespace AppRelease.Json

/-! ## Spellings -/

/-- A digit of a hexadecimal number, small or capital, and its value. -/
def IsHexDigit (c : Char) (n : Nat) : Prop :=
  "0123456789abcdef".toList[n]? = some c ∨ "0123456789ABCDEF".toList[n]? = some c

/-- A number in four hexadecimal digits. -/
inductive IsHexQuad : List Char → Nat → Prop where
  | mk {a b c d : Char} {w x y z : Nat} : IsHexDigit a w → IsHexDigit b x → IsHexDigit c y →
      IsHexDigit d z →
      IsHexQuad [a, b, c, d] (((w * 16 + x) * 16 + y) * 16 + z)

/-- The letters that stand for a character after a backslash. -/
def escapes : List (Char × Char) :=
  [('"', '"'), ('\\', '\\'), ('/', '/'), ('b', '\x08'), ('f', '\x0c'), ('n', '\n'), ('r', '\r'),
    ('t', '\t')]

/-- The ways to write a character inside quotes. -/
inductive SpellsChar (c : Char) : List Char → Prop where
  | itself : 0x20 ≤ c.toNat → c ≠ '"' → c ≠ '\\' → SpellsChar c [c]
  | letter {a : Char} : (a, c) ∈ escapes → SpellsChar c ['\\', a]
  | code {digits : List Char} : IsHexQuad digits c.toNat → SpellsChar c ('\\' :: 'u' :: digits)
  | pair {high low : List Char} : 0x10000 ≤ c.toNat →
      IsHexQuad high (0xD800 + (c.toNat - 0x10000) / 0x400) →
      IsHexQuad low (0xDC00 + (c.toNat - 0x10000) % 0x400) →
      SpellsChar c ('\\' :: 'u' :: (high ++ '\\' :: 'u' :: low))

/-- The ways to write characters one after the other. -/
inductive SpellsChars : List Char → List Char → Prop where
  | nil : SpellsChars [] []
  | cons {c : Char} {cs spelled rest : List Char} :
      SpellsChar c spelled → SpellsChars cs rest → SpellsChars (c :: cs) (spelled ++ rest)

/-- The ways to write a text. -/
inductive SpellsText (s : String) : List Char → Prop where
  | mk {inner : List Char} : SpellsChars s.toList inner → SpellsText s ('"' :: (inner ++ ['"']))

/-- What may stand between any two parts. -/
def IsSpace (text : List Char) : Prop := ∀ c ∈ text, c ∈ [' ', '\t', '\n', '\r']

/-- The ways to write a member. -/
inductive SpellsMember : String × String → List Char → Prop where
  | mk {key value : String} {left right before after : List Char} :
      SpellsText key left → IsSpace before → IsSpace after → SpellsText value right →
      SpellsMember (key, value) (left ++ (before ++ ':' :: (after ++ right)))

/-- The ways to write members, with commas between them and space around them. -/
inductive SpellsMembers : List (String × String) → List Char → Prop where
  | one {member : String × String} {before text after : List Char} :
      IsSpace before → SpellsMember member text → IsSpace after →
      SpellsMembers [member] (before ++ (text ++ after))
  | more {member : String × String} {members : List (String × String)}
      {before text after rest : List Char} :
      IsSpace before → SpellsMember member text → IsSpace after → SpellsMembers members rest →
      SpellsMembers (member :: members) (before ++ (text ++ (after ++ ',' :: rest)))

/-- The ways to write an object of texts, with space around it. -/
inductive SpellsObject : List (String × String) → List Char → Prop where
  | empty {before inner after : List Char} : IsSpace before → IsSpace inner → IsSpace after →
      SpellsObject [] (before ++ '\x7b' :: (inner ++ '\x7d' :: after))
  | members {members : List (String × String)} {before inner after : List Char} :
      IsSpace before → SpellsMembers members inner → IsSpace after →
      SpellsObject members (before ++ '\x7b' :: (inner ++ '\x7d' :: after))

/-! ## Reading -/

/-- From a text and whatever follows it, a value is read and what follows is left. -/
def Reads {α : Type} (reader : Cursor → Except Error (α × Cursor)) (text : List Char)
    (value : α) : Prop :=
  ∀ rest p, ∃ q, reader ⟨text ++ rest, p⟩ = .ok (value, ⟨rest, q⟩)

theorem skip_append (text rest : List Char) (p : Position) :
    ∃ q, Cursor.skip ⟨text ++ rest, p⟩ text.length = ⟨rest, q⟩ := by
  induction text generalizing p with
  | nil => exact ⟨p, rfl⟩
  | cons c text ih => exact ih (p.after c)

theorem skip_one (c : Char) (rest : List Char) (p : Position) :
    ∃ q, Cursor.skip ⟨c :: rest, p⟩ 1 = ⟨rest, q⟩ :=
  skip_append [c] rest p

theorem isSpace_iff {c : Char} : Cursor.isSpace c = true ↔ c ∈ [' ', '\t', '\n', '\r'] := by
  simp [Cursor.isSpace, or_assoc]

/-- **Space is skipped** up to what is no space. -/
theorem skipSpace_of_isSpace {space rest : List Char} (h : IsSpace space)
    (hrest : ∀ c, rest.head? = some c → Cursor.isSpace c = false) (p : Position) :
    ∃ q, Cursor.skipSpace ⟨space ++ rest, p⟩ = ⟨rest, q⟩ := by
  have htaken : (space ++ rest).takeWhile Cursor.isSpace = space := by
    rw [List.takeWhile_append_of_pos fun c hc => isSpace_iff.mpr (h c hc)]
    cases rest with
    | nil => simp
    | cons c rest => simp [hrest c rfl]
  rw [Cursor.skipSpace, htaken]
  exact skip_append space rest p

theorem skipSpace_before {space : List Char} {c : Char} (h : IsSpace space)
    (hc : Cursor.isSpace c = false) (rest : List Char) (p : Position) :
    ∃ q, Cursor.skipSpace ⟨space ++ c :: rest, p⟩ = ⟨c :: rest, q⟩ := by
  refine skipSpace_of_isSpace h ?_ p
  intro d hd
  rw [← Option.some.inj hd]
  exact hc

theorem skipSpace_end {space : List Char} (h : IsSpace space) (p : Position) :
    ∃ q, Cursor.skipSpace ⟨space, p⟩ = ⟨[], q⟩ := by
  have hskip : ∃ q, Cursor.skipSpace ⟨space ++ [], p⟩ = ⟨[], q⟩ :=
    skipSpace_of_isSpace h (by simp) p
  rwa [List.append_nil] at hskip

/-! ### Characters -/

theorem hexValue?_of_isHexDigit {c : Char} {n : Nat} (h : IsHexDigit c n) :
    hexValue? c = some n := by
  have hsmall : ∀ e ∈ "0123456789abcdef".toList.zipIdx, hexValue? e.1 = some e.2 := by decide
  have hcapital : ∀ e ∈ "0123456789ABCDEF".toList.zipIdx, hexValue? e.1 = some e.2 := by decide
  rcases h with h | h
  · exact hsmall (c, n) (List.mem_zipIdx_iff_getElem?.mpr h)
  · exact hcapital (c, n) (List.mem_zipIdx_iff_getElem?.mpr h)

theorem readHexQuad_of_isHexQuad {digits : List Char} {n : Nat} (h : IsHexQuad digits n) :
    Reads readHexQuad digits n := by
  intro rest p
  cases h with
  | @mk a b c d w x y z ha hb hc hd =>
    obtain ⟨q, hq⟩ := skip_append [a, b, c, d] rest p
    have hbytes : ¬ ((([a, b, c, d] ++ rest).take 4).map Char.utf8Size).foldr (· + ·) 0 < 4 := by
      have ha := a.utf8Size_pos
      have hb := b.utf8Size_pos
      have hc := c.utf8Size_pos
      have hd := d.utf8Size_pos
      simp only [List.cons_append, List.nil_append, List.take_succ_cons, List.take_zero,
        List.map_cons, List.map_nil, List.foldr_cons, List.foldr_nil]
      omega
    have hvalue : hexQuad? ([a, b, c, d] ++ rest) = some (((w * 16 + x) * 16 + y) * 16 + z) := by
      simp [hexQuad?, hexValue?_of_isHexDigit ha, hexValue?_of_isHexDigit hb,
        hexValue?_of_isHexDigit hc, hexValue?_of_isHexDigit hd]
    exact ⟨q, by simp only [readHexQuad, if_neg hbytes, hvalue, ← hq, List.length_cons,
      List.length_nil]⟩

/-- A code that is no half of a pair is that of its character. -/
theorem readCode_of_code {c : Char} {digits : List Char} (h : IsHexQuad digits c.toNat) :
    Reads readCode digits c := by
  intro rest p
  obtain ⟨q, hq⟩ := readHexQuad_of_isHexQuad h rest p
  have hvalid : c.toNat < 0xD800 ∨ 0xDFFF < c.toNat ∧ c.toNat < 0x110000 := c.valid
  have hlow : isLowSurrogate c.toNat = false := by
    simp only [isLowSurrogate, Bool.and_eq_false_iff, decide_eq_false_iff_not]
    omega
  have hhigh : isHighSurrogate c.toNat = false := by
    simp only [isHighSurrogate, Bool.and_eq_false_iff, decide_eq_false_iff_not]
    omega
  refine ⟨q, ?_⟩
  simp [readCode, hq, hlow, hhigh, bind, Except.bind, pure, Except.pure]

/-- Two codes are put together to the character that they are the halves of. -/
theorem readCode_of_pair {c : Char} {high low : List Char} (hc : 0x10000 ≤ c.toNat)
    (hhigh : IsHexQuad high (0xD800 + (c.toNat - 0x10000) / 0x400))
    (hlow : IsHexQuad low (0xDC00 + (c.toNat - 0x10000) % 0x400)) :
    Reads readCode (high ++ '\\' :: 'u' :: low) c := by
  intro rest p
  have hvalid : c.toNat < 0xD800 ∨ 0xDFFF < c.toNat ∧ c.toNat < 0x110000 := c.valid
  -- the code beyond the first plane has ten bits in each half
  have hdiv : (c.toNat - 0x10000) / 0x400 < 0x400 := by omega
  have hmod : (c.toNat - 0x10000) % 0x400 < 0x400 := by omega
  generalize hfirst : (c.toNat - 0x10000) / 0x400 = first at *
  generalize hsecond : (c.toNat - 0x10000) % 0x400 = second at *
  have hnotLow : isLowSurrogate (0xD800 + first) = false := by
    simp only [isLowSurrogate, Bool.and_eq_false_iff, decide_eq_false_iff_not]
    omega
  have hisHigh : isHighSurrogate (0xD800 + first) = true := by
    simp only [isHighSurrogate, Bool.and_eq_true, decide_eq_true_eq]
    omega
  have hisLow : isLowSurrogate (0xDC00 + second) = true := by
    simp only [isLowSurrogate, Bool.and_eq_true, decide_eq_true_eq]
    omega
  have hcode : 0x10000 + first * 0x400 + second = c.toNat := by omega
  obtain ⟨p₁, h₁⟩ := readHexQuad_of_isHexQuad hhigh ('\\' :: 'u' :: (low ++ rest)) p
  obtain ⟨p₂, h₂⟩ := skip_one '\\' ('u' :: (low ++ rest)) p₁
  obtain ⟨p₃, h₃⟩ := skip_one 'u' (low ++ rest) p₂
  obtain ⟨p₄, h₄⟩ := readHexQuad_of_isHexQuad hlow rest p₃
  refine ⟨p₄, ?_⟩
  simp only [List.append_assoc, List.cons_append]
  simp [readCode, expectInPair, h₁, h₂, h₃, h₄, hnotLow, hisHigh, hisLow, hcode, bind,
    Except.bind, pure, Except.pure]

theorem readEscape_of_letter {a c : Char} (h : (a, c) ∈ escapes) : Reads readEscape [a] c := by
  intro rest p
  obtain ⟨q, hq⟩ := skip_one a rest p
  simp only [escapes, List.mem_cons, Prod.mk.injEq, List.not_mem_nil, or_false] at h
  rcases h with
    ⟨rfl, rfl⟩ | ⟨rfl, rfl⟩ | ⟨rfl, rfl⟩ | ⟨rfl, rfl⟩ | ⟨rfl, rfl⟩ | ⟨rfl, rfl⟩ |
    ⟨rfl, rfl⟩ | ⟨rfl, rfl⟩ <;>
    exact ⟨q, by simp only [readEscape, List.cons_append, List.nil_append, hq]⟩

theorem readEscape_of_code {c : Char} {codes : List Char} (h : Reads readCode codes c) :
    Reads readEscape ('u' :: codes) c := by
  intro rest p
  obtain ⟨p₁, h₁⟩ := skip_one 'u' (codes ++ rest) p
  obtain ⟨q, hq⟩ := h rest p₁
  exact ⟨q, by simp only [readEscape, List.cons_append, h₁, hq]⟩

/-- The ways to write a character, as a reader of texts tells them apart: with a backslash or
without. -/
theorem SpellsChar.cases {c : Char} {spelled : List Char} (h : SpellsChar c spelled) :
    (spelled = [c] ∧ 0x20 ≤ c.toNat ∧ c ≠ '"' ∧ c ≠ '\\') ∨
      ∃ escape, spelled = '\\' :: escape ∧ Reads readEscape escape c := by
  cases h with
  | itself hcontrol hquote hstroke => exact .inl ⟨rfl, hcontrol, hquote, hstroke⟩
  | letter ha => exact .inr ⟨_, rfl, readEscape_of_letter ha⟩
  | code hdigits => exact .inr ⟨_, rfl, readEscape_of_code (readCode_of_code hdigits)⟩
  | pair hc hhigh hlow => exact .inr ⟨_, rfl, readEscape_of_code (readCode_of_pair hc hhigh hlow)⟩

theorem readChars_plain {c : Char} (hcontrol : 0x20 ≤ c.toNat) (hquote : c ≠ '"')
    (hstroke : c ≠ '\\') (fuel : Nat) (rest : List Char) (p : Position) :
    readChars (fuel + 1) ⟨c :: rest, p⟩ = (do
      let (others, cursor) ← readChars fuel (Cursor.skip ⟨c :: rest, p⟩ 1)
      return (c :: others, cursor)) := by
  have hnot : ¬ c.toNat < 0x20 := Nat.not_lt.mpr hcontrol
  rw [readChars]
  split
  next heq => exact absurd heq (by simp)
  next heq => exact absurd (List.cons.inj heq).1 hquote
  next heq => exact absurd (List.cons.inj heq).1 hstroke
  next a _ _ _ heq =>
    obtain ⟨rfl, -⟩ := List.cons.inj heq
    rw [if_neg hnot]

/-- **Characters are read however they are written**, up to the quote. -/
theorem readChars_of_spells {cs inner : List Char} (h : SpellsChars cs inner) {fuel : Nat}
    (hfuel : inner.length < fuel) : Reads (readChars fuel) (inner ++ ['"']) cs := by
  induction h generalizing fuel with
  | nil =>
    intro rest p
    obtain ⟨q, hq⟩ := skip_one '"' rest p
    obtain ⟨fuel, rfl⟩ := Nat.exists_eq_succ_of_ne_zero (Nat.ne_of_gt hfuel)
    exact ⟨q, by simp only [readChars, List.nil_append, List.cons_append, hq]⟩
  | @cons c cs spelled inner hc _ ih =>
    intro rest p
    obtain ⟨fuel, rfl⟩ := Nat.exists_eq_succ_of_ne_zero (Nat.ne_of_gt (Nat.zero_lt_of_lt hfuel))
    rw [List.length_append] at hfuel
    -- each character takes one step, and is written with one character at least
    rcases hc.cases with ⟨rfl, hcontrol, hquote, hstroke⟩ | ⟨escape, rfl, hescape⟩
    · have hshort : inner.length < fuel := by
        rw [List.length_singleton] at hfuel
        omega
      obtain ⟨p₁, h₁⟩ := skip_one c (inner ++ ['"'] ++ rest) p
      obtain ⟨q, hq⟩ := ih hshort rest p₁
      refine ⟨q, ?_⟩
      simp only [List.append_assoc, List.cons_append, List.nil_append] at h₁ hq ⊢
      rw [readChars_plain hcontrol hquote hstroke, h₁, hq]
      rfl
    · have hshort : inner.length < fuel := by
        rw [List.length_cons] at hfuel
        omega
      obtain ⟨p₁, h₁⟩ := skip_one '\\' (escape ++ (inner ++ ['"'] ++ rest)) p
      obtain ⟨p₂, h₂⟩ := hescape (inner ++ ['"'] ++ rest) p₁
      obtain ⟨q, hq⟩ := ih hshort rest p₂
      refine ⟨q, ?_⟩
      simp only [List.append_assoc, List.cons_append, List.nil_append] at h₁ h₂ hq ⊢
      simp only [readChars, h₁, h₂]
      simp only [bind, Except.bind, hq]
      rfl

/-- **A text is read however it is written.** -/
theorem readText_of_spells {s : String} {text : List Char} (h : SpellsText s text) :
    Reads readText text s := by
  cases h with
  | @mk inner hinner =>
    intro rest p
    obtain ⟨p₁, h₁⟩ := skip_one '"' (inner ++ ['"'] ++ rest) p
    have hfuel : inner.length < (inner ++ ['"'] ++ rest).length + 1 := by
      simp only [List.length_append]
      omega
    obtain ⟨q, hq⟩ := readChars_of_spells hinner hfuel rest p₁
    refine ⟨q, ?_⟩
    simp only [readText, List.cons_append, h₁]
    simp only [bind, Except.bind, hq, String.ofList_toList]
    rfl

/-! ### Members -/

theorem SpellsText.head {s : String} {text : List Char} (h : SpellsText s text) :
    ∃ tail, text = '"' :: tail := by
  cases h with
  | mk => exact ⟨_, rfl⟩

/-- A value that is a text, with space before it. -/
theorem readValue_of_spells {s : String} {text space : List Char} (h : SpellsText s text)
    (hspace : IsSpace space) (depth : Nat) :
    Reads (readValue (depth + 1)) (space ++ text) (.text s) := by
  intro rest p
  obtain ⟨tail, rfl⟩ := h.head
  obtain ⟨p₁, h₁⟩ := skipSpace_before (c := '"') hspace (by decide) (tail ++ rest) p
  obtain ⟨q, hq⟩ := readText_of_spells h rest p₁
  refine ⟨q, ?_⟩
  simp only [List.append_assoc, List.cons_append] at hq ⊢
  simp only [readValue, h₁]
  simp only [bind, Except.bind, hq]
  rfl

/-- What reading a member gives. -/
def asValue (member : String × String) : String × Value := (member.1, .text member.2)

theorem readMember_of_spells {member : String × String} {text : List Char}
    (h : SpellsMember member text) (depth : Nat) :
    Reads (readMember (readValue (depth + 1))) text (asValue member) := by
  intro rest p
  cases h with
  | @mk key value left right before after hkey hbefore hafter hvalue =>
    obtain ⟨p₁, h₁⟩ := readText_of_spells hkey (before ++ ':' :: (after ++ right ++ rest)) p
    obtain ⟨p₂, h₂⟩ := skipSpace_before (c := ':') hbefore (by decide) (after ++ right ++ rest) p₁
    obtain ⟨p₃, h₃⟩ := skip_one ':' (after ++ right ++ rest) p₂
    obtain ⟨q, hq⟩ := readValue_of_spells hvalue hafter depth rest p₃
    refine ⟨q, ?_⟩
    simp only [List.append_assoc, List.cons_append] at h₁ h₂ h₃ hq ⊢
    simp only [readMember, bind, Except.bind, h₁, h₂, h₃, hq]
    rfl

theorem SpellsMember.head {member : String × String} {text : List Char}
    (h : SpellsMember member text) :
    ∃ tail, text = '"' :: tail := by
  cases h with
  | mk hkey =>
    obtain ⟨tail, rfl⟩ := hkey.head
    exact ⟨_, rfl⟩

theorem SpellsMembers.length_le {members : List (String × String)} {text : List Char}
    (h : SpellsMembers members text) :
    members.length ≤ text.length := by
  induction h with
  | one _ hmember _ =>
    obtain ⟨tail, rfl⟩ := hmember.head
    simp only [List.length_append, List.length_cons, List.length_nil]
    omega
  | more _ _ _ _ ih =>
    simp only [List.length_append, List.length_cons]
    omega

/-- **Members are read one after the other**, up to the end of the object. The first is found after
the space before it, and as many steps as there are members are enough for the others. -/
theorem readMembers_of_spells {members : List (String × String)} {text : List Char}
    (h : SpellsMembers members text) (depth : Nat) (rest : List Char) (p : Position) :
    ∃ tail p₁ first others c, members.map asValue = first :: others ∧
      Cursor.skipSpace ⟨text ++ '\x7d' :: rest, p⟩ = ⟨'"' :: tail, p₁⟩ ∧
      readMember (readValue (depth + 1)) ⟨'"' :: tail, p₁⟩ = .ok (first, c) ∧
        members.length ≤ c.rest.length ∧
      ∀ fuel, members.length ≤ fuel →
        ∃ q, readMembers (readValue (depth + 1)) fuel c = .ok (others, ⟨rest, q⟩) := by
  induction h generalizing p with
  | @one member before text after hbefore hmember hafter =>
    obtain ⟨tail, rfl⟩ := hmember.head
    obtain ⟨p₁, h₁⟩ :=
      skipSpace_before (c := '"') hbefore (by decide) (tail ++ (after ++ '\x7d' :: rest)) p
    obtain ⟨p₂, h₂⟩ := readMember_of_spells hmember depth (after ++ '\x7d' :: rest) p₁
    obtain ⟨p₃, h₃⟩ := skipSpace_before (c := '\x7d') hafter (by decide) rest p₂
    obtain ⟨q, hq⟩ := skip_one '\x7d' rest p₃
    simp only [List.append_assoc, List.cons_append] at h₁ h₂ ⊢
    refine ⟨_, p₁, _, [], _, rfl, h₁, h₂, ?_, ?_⟩
    · simp only [List.length_append, List.length_cons, List.length_nil]
      omega
    intro fuel hfuel
    obtain ⟨fuel, rfl⟩ := Nat.exists_eq_succ_of_ne_zero (Nat.ne_of_gt hfuel)
    exact ⟨q, by simp only [readMembers, h₃, hq]⟩
  | @more member members before text after others hbefore hmember hafter hothers ih =>
    obtain ⟨tail, rfl⟩ := hmember.head
    obtain ⟨p₁, h₁⟩ := skipSpace_before (c := '"') hbefore (by decide)
      (tail ++ (after ++ ',' :: (others ++ '\x7d' :: rest))) p
    obtain ⟨p₂, h₂⟩ :=
      readMember_of_spells hmember depth (after ++ ',' :: (others ++ '\x7d' :: rest)) p₁
    obtain ⟨p₃, h₃⟩ := skipSpace_before (c := ',') hafter (by decide) (others ++ '\x7d' :: rest) p₂
    obtain ⟨p₄, h₄⟩ := skip_one ',' (others ++ '\x7d' :: rest) p₃
    obtain ⟨tail', p₅, first, found, c, hfound, h₅, h₆, -, h₇⟩ := ih p₄
    simp only [List.append_assoc, List.cons_append] at h₁ h₂ ⊢
    have hlength := hothers.length_le
    refine ⟨_, p₁, _, _, _, rfl, h₁, h₂, ?_, ?_⟩
    · simp only [List.length_append, List.length_cons]
      omega
    · intro fuel hfuel
      obtain ⟨fuel, rfl⟩ := Nat.exists_eq_succ_of_ne_zero (Nat.ne_of_gt (Nat.zero_lt_of_lt hfuel))
      obtain ⟨q, hq⟩ := h₇ fuel (by simpa using hfuel)
      refine ⟨q, ?_⟩
      simp only [readMembers, h₃, h₄, h₅, bind, Except.bind, h₆, hq, hfound]
      rfl

/-- Space may follow a document. -/
theorem expectEnd_of_isSpace {α : Type} (value : α) {space : List Char} (h : IsSpace space)
    (p : Position) :
    expectEnd value ⟨space, p⟩ = .ok value := by
  obtain ⟨q, hq⟩ := skipSpace_end h p
  simp only [expectEnd, hq, List.isEmpty_nil, ↓reduceIte]

/-- **An object of texts is read however it is written.** -/
theorem readObject_of_spells {members : List (String × String)} {text : String}
    (h : SpellsObject members text.toList) : readObject text = .ok (members.map asValue) := by
  generalize htext : text.toList = spelled at h
  rw [readObject, htext, Cursor.start]
  cases h with
  | @empty before inner after hbefore hinner hafter =>
    obtain ⟨p₁, h₁⟩ :=
      skipSpace_before (c := '\x7b') hbefore (by decide) (inner ++ '\x7d' :: after) ⟨1, 0⟩
    obtain ⟨p₂, h₂⟩ := skip_one '\x7b' (inner ++ '\x7d' :: after) p₁
    obtain ⟨p₃, h₃⟩ := skipSpace_before (c := '\x7d') hinner (by decide) after p₂
    obtain ⟨p₄, h₄⟩ := skip_one '\x7d' after p₃
    simp only [h₁, h₂, readObjectBody, h₃, h₄]
    exact expectEnd_of_isSpace _ hafter p₄
  | @members _ before inner after hbefore hmembers hafter =>
    obtain ⟨p₁, h₁⟩ :=
      skipSpace_before (c := '\x7b') hbefore (by decide) (inner ++ '\x7d' :: after) ⟨1, 0⟩
    obtain ⟨p₂, h₂⟩ := skip_one '\x7b' (inner ++ '\x7d' :: after) p₁
    obtain ⟨tail, p₃, first, others, c, hfound, h₃, h₄, hlength, h₅⟩ :=
      readMembers_of_spells hmembers 126 after p₂
    obtain ⟨q, hq⟩ := h₅ (c.rest.length + 1) (Nat.le_succ_of_le hlength)
    rw [hfound]
    simp only [h₁, h₂, readObjectBody, h₃, depthLimit, Nat.reduceSub, bind, Except.bind, h₄, hq]
    exact expectEnd_of_isSpace _ hafter q

/-! ## Writing -/

theorem isHexDigit_hexDigit {n : Nat} (h : n < 16) : IsHexDigit (hexDigit n) n := by
  have hall : ∀ n < 16, "0123456789abcdef".toList[n]? = some (hexDigit n) := by decide
  exact .inl (hall n h)

/-- **A character is written in one of the ways.** -/
theorem spellsChar_writeChar (c : Char) : SpellsChar c (writeChar c) := by
  rw [writeChar]
  split
  next h => exact .letter (by rw [h]; decide)
  next hquote =>
  split
  next h => exact .letter (by rw [h]; decide)
  next hstroke =>
  split
  next h => exact .letter (by rw [h]; decide)
  split
  next h => exact .letter (by rw [h]; decide)
  split
  next h => exact .letter (by rw [h]; decide)
  split
  next h => exact .letter (by rw [h]; decide)
  split
  next h => exact .letter (by rw [h]; decide)
  split
  next hcontrol =>
    have hdigit : IsHexDigit '0' 0 := .inl rfl
    have hhigh : IsHexDigit (hexDigit (c.toNat / 16)) (c.toNat / 16) :=
      isHexDigit_hexDigit (by omega)
    have hlow : IsHexDigit (hexDigit (c.toNat % 16)) (c.toNat % 16) :=
      isHexDigit_hexDigit (by omega)
    have hcode : ((0 * 16 + 0) * 16 + c.toNat / 16) * 16 + c.toNat % 16 = c.toNat := by omega
    have hquad := IsHexQuad.mk hdigit hdigit hhigh hlow
    rw [hcode] at hquad
    exact .code hquad
  next hcontrol => exact .itself (Nat.not_lt.mp hcontrol) hquote hstroke

theorem spellsText_writeText (s : String) : SpellsText s (writeText s).toList := by
  have hchars : ∀ cs, SpellsChars cs (cs.flatMap writeChar) := by
    intro cs
    induction cs with
    | nil => exact .nil
    | cons c cs ih => exact .cons (spellsChar_writeChar c) ih
  rw [writeText, String.toList_ofList]
  exact .mk (hchars s.toList)

/-- A member as a field of a document. -/
def asField (member : String × String) : String × Document := (member.1, .text member.2)

theorem isSpace_nil : IsSpace [] := by simp [IsSpace]

theorem isSpace_newLine (depth : Nat) : IsSpace (newLine depth).toList := by
  intro c hc
  rw [newLine, String.toList_ofList, List.mem_cons] at hc
  rcases hc with rfl | hc
  · decide
  · rw [List.eq_of_mem_replicate hc]
    decide

theorem spellsMember_write (depth : Nat) (member : String × String) :
    SpellsMember member (writeText member.1 ++ ": " ++ write depth (.text member.2)).toList := by
  have hblank : IsSpace [' '] := by simp [IsSpace]
  have hspells :=
    SpellsMember.mk (spellsText_writeText member.1) isSpace_nil hblank
      (spellsText_writeText member.2)
  simpa [write] using hspells

theorem spellsMembers_writeFields (depth : Nat) (first : String × String)
    (members : List (String × String)) {after : List Char} (hafter : IsSpace after) :
    SpellsMembers (first :: members)
      ((writeFields depth ((first :: members).map asField)).toList ++ after) := by
  induction members generalizing first with
  | nil =>
    have hspells :=
      SpellsMembers.one (isSpace_newLine depth) (spellsMember_write depth first) hafter
    simpa [writeFields, asField] using hspells
  | cons second rest ih =>
    have hspells :=
      SpellsMembers.more (isSpace_newLine depth) (spellsMember_write depth first) isSpace_nil
        (ih second)
    simpa [writeFields, asField] using hspells

/-- **A record of texts is written as an object in one of the ways.** -/
theorem spellsObject_toJson (members : List (String × String)) :
    SpellsObject members (Document.record (members.map asField)).toJson.toList := by
  cases members with
  | nil => exact .empty isSpace_nil isSpace_nil isSpace_nil
  | cons first members =>
    have hspells := SpellsObject.members isSpace_nil
      (spellsMembers_writeFields 1 first members (isSpace_newLine 0)) isSpace_nil
    simpa [Document.toJson, write] using hspells

end AppRelease.Json
