import AppRelease.Proofs.Spelling

/-!
# Numbers as the format has them

Program: `readNumber` takes a number as long as the text continues one. It keeps the digits that fit
in 64 bits, and of an exponent those below 2^31.

Specification: `IsNumber` has the rules of the format (RFC 8259) for a number. `rest_readNumber`
says that such a number, if it is read at all, is read to its last character and no further.

1. **Cursors.** Only what is left of the text matters here and not the place, so the lemmas are
   about `Cursor.rest`.
2. **Kept and passed over.** Digits that are not kept are passed over all the same: those of an
   exponent that is too large (`exponentDigits_cases`) and those of a whole number
   (`readUnsigned_eq`).
-/

namespace AppRelease.Json

/-! ## The format -/

/-- A whole number: digits, and no zero before others. -/
inductive IsWhole : List Char → Prop where
  | zero : IsWhole ['0']
  | digits {first : Char} {others : List Char} : first.isDigit = true → first ≠ '0' →
      (∀ c ∈ others, c.isDigit = true) → IsWhole (first :: others)

/-- A whole number with a minus sign or without. -/
inductive IsInteger : List Char → Prop where
  | plain {digits : List Char} : IsWhole digits → IsInteger digits
  | minus {digits : List Char} : IsWhole digits → IsInteger ('-' :: digits)

/-- Digits, one at least. -/
def IsDigits (text : List Char) : Prop := text ≠ [] ∧ ∀ c ∈ text, c.isDigit = true

/-- A fraction, or none. -/
inductive IsFraction : List Char → Prop where
  | absent : IsFraction []
  | digits {digits : List Char} : IsDigits digits → IsFraction ('.' :: digits)

/-- An exponent, or none. -/
inductive IsExponent : List Char → Prop where
  | absent : IsExponent []
  | plain {e : Char} {digits : List Char} : e = 'e' ∨ e = 'E' → IsDigits digits →
      IsExponent (e :: digits)
  | signed {e sign : Char} {digits : List Char} : e = 'e' ∨ e = 'E' → sign = '+' ∨
      sign = '-' → IsDigits digits →
      IsExponent (e :: sign :: digits)

/-- A number. -/
inductive IsNumber : List Char → Prop where
  | mk {whole fraction exponent : List Char} : IsInteger whole → IsFraction fraction →
      IsExponent exponent →
      IsNumber (whole ++ (fraction ++ exponent))

/-! ## Cursors -/

/-- The characters that may follow a value: space, and the signs that end it. -/
def endChars : List Char := [' ', '\t', '\n', '\r', ',', ']', '\x7d']

/-- What may follow a value: nothing, or such a character. -/
def Ends (rest : List Char) : Prop := ∀ c, rest.head? = some c → c ∈ endChars

/-- No digit comes next. -/
def NoDigit (rest : List Char) : Prop := ∀ c, rest.head? = some c → c.isDigit = false

theorem Ends.noDigit {rest : List Char} (h : Ends rest) : NoDigit rest := by
  have hall : endChars.all (fun c => !c.isDigit) = true := by decide
  intro c hc
  exact (Bool.not_eq_true' _).mp (List.all_eq_true.mp hall c (h c hc))

theorem Ends.ne_cons {rest tail : List Char} {a : Char} (h : Ends rest)
    (ha : a ∉ endChars) : rest ≠ a :: tail := by
  rintro rfl
  exact ha (h a rfl)

theorem ends_append {after rest : List Char} {c : Char} (hafter : IsSpace after)
    (hc : c ∈ [',', ']', '\x7d']) :
    Ends (after ++ c :: rest) := by
  intro a ha
  cases after with
  | nil =>
    obtain rfl : c = a := Option.some.inj ha
    exact List.mem_append_right [' ', '\t', '\n', '\r'] hc
  | cons b after =>
    obtain rfl : b = a := Option.some.inj ha
    exact List.mem_append_left [',', ']', '\x7d'] (hafter b List.mem_cons_self)

namespace Cursor

variable {c : Cursor}

theorem fail_ne_ok {α : Type} {fault : Fault} {a : α} : c.fail fault ≠ .ok a := by simp [fail]

theorem failAhead_ne_ok {α : Type} {fault : Fault} {a : α} : c.failAhead fault ≠ .ok a := by
  simp [failAhead]

theorem rest_skip_append {text rest : List Char} (h : c.rest = text ++ rest) :
    (c.skip text.length).rest = rest := by
  obtain ⟨q, hq⟩ := skip_append text rest c.position
  rw [← h] at hq
  exact congrArg Cursor.rest hq

theorem rest_skip_one {a : Char} {rest : List Char} (h : c.rest = a :: rest) :
    (c.skip 1).rest = rest :=
  @rest_skip_append c [a] rest h

theorem rest_skipSpace {space text : List Char} (hspace : IsSpace space)
    (htext : ∀ a, text.head? = some a → isSpace a = false) (h : c.rest = space ++ text) :
    c.skipSpace.rest = text := by
  obtain ⟨q, hq⟩ := skipSpace_of_isSpace hspace htext c.position
  rw [← h] at hq
  exact congrArg Cursor.rest hq

theorem rest_skipSpace_before {space rest : List Char} {a : Char} (hspace : IsSpace space)
    (ha : isSpace a = false) (h : c.rest = space ++ a :: rest) : c.skipSpace.rest = a :: rest := by
  refine rest_skipSpace hspace ?_ h
  intro b hb
  obtain rfl : a = b := Option.some.inj hb
  exact ha

theorem skipSpace_eq_self {a : Char} {rest : List Char} (ha : isSpace a = false)
    (h : c.rest = a :: rest) :
    c.skipSpace = c := by
  rw [skipSpace, h, List.takeWhile_cons, ha]
  rfl

theorem digitsAhead_eq {digits tail : List Char} (hdigits : ∀ a ∈ digits, a.isDigit = true)
    (htail : NoDigit tail) (h : c.rest = digits ++ tail) :
    c.digitsAhead = digits.length := by
  rw [digitsAhead, h, List.takeWhile_append_of_pos hdigits]
  cases tail with
  | nil => simp
  | cons a tail => simp [htail a rfl]

theorem rest_skip_digitsAhead {digits tail : List Char}
    (hdigits : ∀ a ∈ digits, a.isDigit = true) (htail : NoDigit tail)
    (h : c.rest = digits ++ tail) :
    (c.skip c.digitsAhead).rest = tail := by
  rw [digitsAhead_eq hdigits htail h]
  exact rest_skip_append h

end Cursor

/-! ## Numbers -/

section Numbers

variable {minus raised : Bool} {significand dropped : Nat} {start : Int} {n : Number}
  {c c' : Cursor}

theorem realNumber_eq_ok (h : realNumber minus significand start c = .ok (n, c')) :
    c' = c ∧ ∃ magnitude, n = .real minus magnitude := by
  rw [realNumber] at h
  split at h
  next magnitude _ =>
    obtain ⟨rfl, rfl⟩ := Prod.mk.inj (Except.ok.inj h)
    exact ⟨rfl, magnitude, rfl⟩
  next => exact absurd h Cursor.fail_ne_ok

theorem wholeNumber_eq_ok (h : wholeNumber minus significand c = .ok (n, c')) : c' = c := by
  rw [wholeNumber] at h
  split at h
  · exact (Prod.mk.inj (Except.ok.inj h)).2.symm
  · split at h
    · exact (realNumber_eq_ok h).1
    · exact (Prod.mk.inj (Except.ok.inj h)).2.symm

/-- The digits of an exponent are taken to the last, or up to the one that is too much. -/
theorem exponentDigits_cases {digits tail : List Char}
    (hdigits : ∀ a ∈ digits, a.isDigit = true) (htail : NoDigit tail) (m taken : Nat) :
    (∃ exponent, exponentDigits m taken (digits ++ tail) = (some exponent, taken + digits.length)) ∨
      ∃ used unused, digits = used ++ unused ∧
        exponentDigits m taken (digits ++ tail) = (none, taken + used.length) := by
  induction digits generalizing m taken with
  | nil =>
    refine .inl ⟨m, ?_⟩
    cases tail with
    | nil => rfl
    | cons a tail => simp [exponentDigits, Numeral.digit?, htail a rfl]
  | cons a digits ih =>
    obtain ⟨ha, hdigits⟩ := List.forall_mem_cons.mp hdigits
    simp only [List.cons_append, exponentDigits, Numeral.digit?, if_pos ha]
    split
    · rcases ih hdigits (10 * m + (a.toNat - '0'.toNat)) (taken + 1) with
        ⟨exponent, h⟩ | ⟨used, unused, rfl, h⟩
      · refine .inl ⟨exponent, ?_⟩
        rw [h, List.length_cons, Nat.add_assoc, Nat.add_comm 1]
      · refine .inr ⟨a :: used, unused, rfl, ?_⟩
        rw [h, List.length_cons, Nat.add_assoc, Nat.add_comm 1]
    · exact .inr ⟨[a], digits, rfl, rfl⟩

theorem rest_readPower {digits rest : List Char} (hdigits : IsDigits digits) (hrest : Ends rest)
    (hc : c.rest = digits ++ rest) (h : readPower minus significand start raised c = .ok (n, c')) :
    c'.rest = rest := by
  obtain ⟨hne, hall⟩ := hdigits
  rw [readPower] at h
  split at h
  next => exact absurd h Cursor.fail_ne_ok
  next =>
    split at h
    · exact absurd h Cursor.failAhead_ne_ok
    rw [hc] at h
    rcases exponentDigits_cases hall hrest.noDigit 0 0 with
      ⟨exponent, hread⟩ | ⟨used, unused, rfl, hread⟩
    · rw [hread, Nat.zero_add] at h
      rw [(realNumber_eq_ok h).1]
      exact Cursor.rest_skip_append hc
    · simp only [hread, Nat.zero_add] at h
      split at h
      · exact absurd h Cursor.fail_ne_ok
      · rw [← (Prod.mk.inj (Except.ok.inj h)).2]
        -- the digits that were not taken are passed over
        rw [List.append_assoc] at hc
        exact Cursor.rest_skip_digitsAhead
          (fun a ha => hall a (List.mem_append_right used ha)) hrest.noDigit
          (Cursor.rest_skip_append hc)

theorem IsDigits.cases {digits : List Char} (h : IsDigits digits) :
    ∃ first others, digits = first :: others ∧ first.isDigit = true := by
  obtain ⟨hne, hall⟩ := h
  obtain ⟨first, others, rfl⟩ := List.exists_cons_of_ne_nil hne
  exact ⟨first, others, rfl, hall first List.mem_cons_self⟩

theorem ne_of_isDigit {a b : Char} (ha : a.isDigit = true) (hb : b.isDigit = false) : a ≠ b := by
  rintro rfl
  exact absurd (ha.symm.trans hb) (by decide)

theorem rest_readExponent {exponent rest : List Char} (hexponent : IsExponent exponent)
    (hne : exponent ≠ []) (hrest : Ends rest) (hc : c.rest = exponent ++ rest)
    (h : readExponent minus significand start c = .ok (n, c')) : c'.rest = rest := by
  cases hexponent with
  | absent => exact absurd rfl hne
  | @plain e digits _ hdigits =>
    have hskip : (c.skip 1).rest = digits ++ rest := Cursor.rest_skip_one hc
    obtain ⟨first, others, rfl, hfirst⟩ := hdigits.cases
    simp only [readExponent] at h
    split at h
    next heq =>
      rw [hskip] at heq
      exact absurd (List.cons.inj heq).1 (ne_of_isDigit hfirst (by decide))
    next heq =>
      rw [hskip] at heq
      exact absurd (List.cons.inj heq).1 (ne_of_isDigit hfirst (by decide))
    next => exact rest_readPower hdigits hrest hskip h
  | @signed e sign digits _ hsign hdigits =>
    have hskip : (c.skip 1).rest = sign :: (digits ++ rest) := Cursor.rest_skip_one hc
    rcases hsign with rfl | rfl <;>
    · simp only [readExponent, hskip] at h
      exact rest_readPower hdigits hrest (Cursor.rest_skip_one hskip) h

theorem IsExponent.cases {exponent : List Char} (h : IsExponent exponent) :
    exponent = [] ∨ ∃ e tail, (e = 'e' ∨ e = 'E') ∧ exponent = e :: tail := by
  cases h with
  | absent => exact .inl rfl
  | plain he => exact .inr ⟨_, _, he, rfl⟩
  | signed he => exact .inr ⟨_, _, he, rfl⟩

theorem IsExponent.noDigit {exponent rest : List Char} (h : IsExponent exponent)
    (hrest : Ends rest) :
    NoDigit (exponent ++ rest) := by
  rcases h.cases with rfl | ⟨e, tail, rfl | rfl, rfl⟩
  · exact hrest.noDigit
  all_goals
    intro a ha
    rw [← Option.some.inj ha]
    decide

theorem rest_readFraction {digits exponent rest : List Char} (hdigits : IsDigits digits)
    (hexponent : IsExponent exponent) (hrest : Ends rest)
    (hc : c.rest = '.' :: (digits ++ (exponent ++ rest)))
    (h : readFraction minus significand start c = .ok (n, c')) : c'.rest = rest := by
  have hskip : ((c.skip 1).skip (c.skip 1).digitsAhead).rest = exponent ++ rest :=
    Cursor.rest_skip_digitsAhead hdigits.2 (hexponent.noDigit hrest) (Cursor.rest_skip_one hc)
  simp only [readFraction] at h
  split at h
  · split at h
    · exact absurd h Cursor.fail_ne_ok
    · exact absurd h Cursor.failAhead_ne_ok
  rcases hexponent.cases with rfl | ⟨e, tail, he, rfl⟩
  · split at h
    next heq => exact absurd (hskip.symm.trans heq) (hrest.ne_cons (by decide))
    next heq => exact absurd (hskip.symm.trans heq) (hrest.ne_cons (by decide))
    next =>
      rw [(realNumber_eq_ok h).1]
      exact hskip
  · rcases he with rfl | rfl <;>
    · simp only [hskip, List.cons_append] at h
      exact rest_readExponent hexponent (by simp) hrest hskip h

/-- Whole digits that nothing follows. -/
theorem readAfterWhole_end (h : Ends c.rest) : readAfterWhole minus significand dropped c =
    if dropped = 0 then wholeNumber minus significand c
    else realNumber minus significand dropped c := by
  rw [readAfterWhole]
  split
  next heq => exact absurd heq (h.ne_cons (by decide))
  next heq => exact absurd heq (h.ne_cons (by decide))
  next heq => exact absurd heq (h.ne_cons (by decide))
  next => rfl

/-- After the whole digits, a number goes on as long as the format has it. -/
theorem rest_readAfterWhole {fraction exponent rest : List Char} (hfraction : IsFraction fraction)
    (hexponent : IsExponent exponent) (hrest : Ends rest)
    (hc : c.rest = fraction ++ (exponent ++ rest))
    (h : readAfterWhole minus significand dropped c = .ok (n, c')) : c'.rest = rest := by
  cases hfraction with
  | digits hdigits =>
    simp only [readAfterWhole, hc, List.cons_append] at h
    exact rest_readFraction hdigits hexponent hrest hc h
  | absent =>
    rcases hexponent.cases with rfl | ⟨e, tail, he, rfl⟩
    · have hc : c.rest = rest := hc
      rw [readAfterWhole_end (hc ▸ hrest)] at h
      split at h
      · rw [wholeNumber_eq_ok h, hc]
      · rw [(realNumber_eq_ok h).1, hc]
    · rcases he with rfl | rfl <;>
      · simp only [readAfterWhole, hc, List.nil_append, List.cons_append] at h
        exact rest_readExponent hexponent (by simp) hrest hc h

/-- The digits taken do not depend on what follows the last digit. -/
theorem significandDigits_append {digits tail : List Char}
    (hdigits : ∀ a ∈ digits, a.isDigit = true) (htail : NoDigit tail) (m taken : Nat) :
    significandDigits m taken (digits ++ tail) = significandDigits m taken digits := by
  induction digits generalizing m taken with
  | nil =>
    cases tail with
    | nil => rfl
    | cons a tail => simp [significandDigits, Numeral.digit?, htail a rfl]
  | cons a digits ih =>
    obtain ⟨ha, hdigits⟩ := List.forall_mem_cons.mp hdigits
    simp only [List.cons_append, significandDigits, Numeral.digit?, if_pos ha, ih hdigits]

theorem IsWhole.isDigit {whole : List Char} (h : IsWhole whole) :
    ∀ a ∈ whole, a.isDigit = true := by
  cases h with
  | zero => exact List.all_eq_true.mp (by decide)
  | digits hfirst _ hothers => exact List.forall_mem_cons.mpr ⟨hfirst, hothers⟩

theorem IsWhole.cons {whole : List Char} (h : IsWhole whole) :
    ∃ first others, whole = first :: others := by
  cases h with
  | zero => exact ⟨_, _, rfl⟩
  | digits => exact ⟨_, _, rfl⟩

/-- **Whole digits are taken to the last**, and those that do not fit in the significand are
counted. -/
theorem readUnsigned_eq {whole tail : List Char} (hwhole : IsWhole whole)
    (htail : NoDigit tail) (hc : c.rest = whole ++ tail) (minus : Bool) :
    ∃ d : Cursor, d.rest = tail ∧
      readUnsigned minus c = readAfterWhole minus (significandDigits 0 0 whole).1
      (whole.length - (significandDigits 0 0 whole).2) d := by
  cases hwhole with
  | zero =>
    have hskip : (c.skip 1).rest = tail := Cursor.rest_skip_one hc
    have hnone : (c.skip 1).digitsAhead = 0 :=
      @Cursor.digitsAhead_eq (c.skip 1) [] tail (by simp) htail hskip
    refine ⟨c.skip 1, hskip, ?_⟩
    simp only [readUnsigned, hc, List.cons_append, hnone]
    rfl
  | @digits first others hfirst hzero hothers =>
    have hall : ∀ a ∈ first :: others, a.isDigit = true :=
      List.forall_mem_cons.mpr ⟨hfirst, hothers⟩
    refine ⟨c.skip c.digitsAhead, Cursor.rest_skip_digitsAhead hall htail hc, ?_⟩
    rw [readUnsigned]
    split
    next heq => exact absurd (hc.symm.trans heq) (by simp)
    next heq => exact absurd (List.cons.inj (hc.symm.trans heq)).1 hzero
    next a _ _ heq =>
      obtain ⟨rfl, -⟩ := List.cons.inj (hc.symm.trans heq)
      rw [hfirst, Cursor.digitsAhead_eq hall htail hc, hc, significandDigits_append hall htail]
      rfl

theorem readNumber_minus {tail : List Char} (hc : c.rest = '-' :: tail) :
    readNumber c = readUnsigned true (c.skip 1) := by
  simp only [readNumber, hc]

theorem readNumber_plain {whole tail : List Char} (hwhole : IsWhole whole)
    (hc : c.rest = whole ++ tail) :
    readNumber c = readUnsigned false c := by
  rw [readNumber]
  split
  next heq =>
    obtain ⟨first, others, rfl⟩ := hwhole.cons
    have hfirst : first = '-' := (List.cons.inj (hc.symm.trans heq)).1
    exact absurd hfirst (ne_of_isDigit (hwhole.isDigit first List.mem_cons_self) (by decide))
  next => rfl

theorem IsFraction.noDigit {fraction tail : List Char} (h : IsFraction fraction)
    (htail : NoDigit tail) :
    NoDigit (fraction ++ tail) := by
  cases h with
  | absent => exact htail
  | digits =>
    intro a ha
    rw [← Option.some.inj ha]
    decide

theorem rest_readUnsigned {whole fraction exponent rest : List Char} (hwhole : IsWhole whole)
    (hfraction : IsFraction fraction) (hexponent : IsExponent exponent) (hrest : Ends rest)
    (hc : c.rest = whole ++ (fraction ++ (exponent ++ rest)))
    (h : readUnsigned minus c = .ok (n, c')) :
    c'.rest = rest := by
  have htail := hfraction.noDigit (hexponent.noDigit hrest)
  obtain ⟨d, hd, heq⟩ := readUnsigned_eq hwhole htail hc minus
  exact rest_readAfterWhole hfraction hexponent hrest hd (heq.symm.trans h)

/-- **A number ends where the format ends it.** -/
theorem rest_readNumber {text rest : List Char} (htext : IsNumber text) (hrest : Ends rest)
    (hc : c.rest = text ++ rest) (h : readNumber c = .ok (n, c')) : c'.rest = rest := by
  obtain ⟨hwhole, hfraction, hexponent⟩ := htext
  simp only [List.append_assoc] at hc
  cases hwhole with
  | plain hwhole =>
    rw [readNumber_plain hwhole hc] at h
    exact rest_readUnsigned hwhole hfraction hexponent hrest hc h
  | minus hwhole =>
    rw [readNumber_minus hc] at h
    exact rest_readUnsigned hwhole hfraction hexponent hrest (Cursor.rest_skip_one hc) h

end Numbers

end AppRelease.Json
