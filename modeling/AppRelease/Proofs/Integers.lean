import AppRelease.Proofs.Assembly
import AppRelease.Proofs.Members
import AppRelease.Proofs.Numeral

/-!
# Whole numbers as secrets

Program: a store of JSON files loads a number as the text that it is written with after it was read.
A number is read into 64 bits, and where it has no place there, with double precision.

Specification: `integers_in_64_bits_keep_digits`. A whole number in a secrets file is loaded as the
characters that stand in the file when it fits in 64 bits with its sign (`Fits`). Any other whole
number, minus zero included, is loaded with a point or an exponent, which no whole number has.

1. **Digits.** Digits without a zero before others are those of the number they stand for
   (`decimal_valueOf`).
2. **The crux.** The reader stops keeping digits before the number grows past 2^64, and knows from
   the count of those left that it did (`significandDigits_of_lt`, `significandDigits_of_le`).
3. **Texts.** A number of double precision is never written as a whole number
   (`point_or_exponent_of_real`).
-/

namespace AppRelease.Json

/-! ## Digits -/

/-- The number that digits stand for. -/
def valueOf (digits : List Char) : Nat := Nat.ofDigitChars 10 digits 0

/-- A whole number that 64 bits have a place for, with its sign. -/
inductive Fits : List Char → Prop where
  | plain {digits : List Char} : IsWhole digits → valueOf digits < 2 ^ 64 → Fits digits
  | minus {digits : List Char} : IsWhole digits → 0 < valueOf digits →
      valueOf digits ≤ 2 ^ 63 → Fits ('-' :: digits)

theorem digitChar_toNat_sub {c : Char} (h : c.isDigit = true) :
    c.toNat - '0'.toNat < 10 ∧ Nat.digitChar (c.toNat - '0'.toNat) = c := by
  have hbounds : 48 ≤ c.toNat ∧ c.toNat ≤ 57 := Char.isDigit_iff_toNat.mp h
  have hlt : c.toNat - '0'.toNat < 10 := by
    rw [show '0'.toNat = 48 from rfl]
    omega
  refine ⟨hlt, Char.toNat_inj.mp ?_⟩
  rw [Nat.toNat_digitChar_of_lt_ten hlt, show '0'.toNat = 48 from rfl]
  omega

/-- Digits that follow those of a number are the last digits of the longer number. -/
theorem toDigits_ofDigitChars {n : Nat} (hn : 0 < n) {digits : List Char}
    (hdigits : ∀ c ∈ digits, c.isDigit = true) :
    Nat.toDigits 10 (Nat.ofDigitChars 10 digits n) = Nat.toDigits 10 n ++ digits := by
  induction digits generalizing n with
  | nil => rw [Nat.ofDigitChars_nil, List.append_nil]
  | cons c digits ih =>
    obtain ⟨hc, hdigits⟩ := List.forall_mem_cons.mp hdigits
    obtain ⟨hlt, hchar⟩ := digitChar_toNat_sub hc
    have hpos : 0 < 10 * n + (c.toNat - '0'.toNat) := by omega
    rw [Nat.ofDigitChars_cons, ih hpos hdigits, ← Nat.toDigits_append_toDigits (by decide) hn hlt,
      Nat.toDigits_of_lt_base hlt, hchar, List.append_assoc]
    rfl

/-- **A whole number has the digits of what it stands for.** -/
theorem decimal_valueOf {digits : List Char} (h : IsWhole digits) :
    (Numeral.decimal (valueOf digits)).toList = digits := by
  rw [Numeral.decimal, String.toList_ofList, valueOf]
  cases h with
  | zero => decide
  | @digits first others hfirst hzero hothers =>
    obtain ⟨hlt, hchar⟩ := digitChar_toNat_sub hfirst
    have hpos : 0 < first.toNat - '0'.toNat := by
      refine Nat.pos_of_ne_zero ?_
      intro hnone
      rw [hnone] at hchar
      exact hzero hchar.symm
    rw [Nat.ofDigitChars_cons, Nat.mul_zero, Nat.zero_add, toDigits_ofDigitChars hpos hothers,
      Nat.toDigits_of_lt_base hlt, hchar]
    rfl

/-- A number below 2^64 keeps all its digits. -/
theorem significandDigits_of_lt {digits : List Char} (hdigits : ∀ c ∈ digits, c.isDigit = true)
    {n : Nat} (taken : Nat) (h : Nat.ofDigitChars 10 digits n < 2 ^ 64) :
    significandDigits n taken digits = (Nat.ofDigitChars 10 digits n, taken + digits.length) := by
  induction digits generalizing n taken with
  | nil => rfl
  | cons c digits ih =>
    obtain ⟨hc, hdigits⟩ := List.forall_mem_cons.mp hdigits
    rw [Nat.ofDigitChars_cons] at h
    have hsmall : 10 * n + (c.toNat - '0'.toNat) < Nat.pow 2 64 :=
      Nat.lt_of_le_of_lt (Numeral.le_ofDigitChars _ digits) h
    simp only [significandDigits, Numeral.digit?, if_pos hc, if_pos hsmall]
    rw [ih hdigits (taken + 1) h, Nat.ofDigitChars_cons, List.length_cons, Nat.add_assoc,
      Nat.add_comm 1]

/-- Any other number does not. -/
theorem significandDigits_of_le {digits : List Char} (hdigits : ∀ c ∈ digits, c.isDigit = true)
    {n : Nat} (taken : Nat) (hn : n < 2 ^ 64) (h : 2 ^ 64 ≤ Nat.ofDigitChars 10 digits n) :
    (significandDigits n taken digits).2 < taken + digits.length := by
  induction digits generalizing n taken with
  | nil =>
    rw [Nat.ofDigitChars_nil] at h
    exact absurd hn (Nat.not_lt.mpr h)
  | cons c digits ih =>
    obtain ⟨hc, hdigits⟩ := List.forall_mem_cons.mp hdigits
    rw [Nat.ofDigitChars_cons] at h
    simp only [significandDigits, Numeral.digit?, if_pos hc]
    split
    next hsmall =>
      have hlt := ih hdigits (taken + 1) hsmall h
      rw [List.length_cons]
      omega
    next =>
      rw [List.length_cons]
      omega

/-! ## Numbers -/

/-- **A whole number after its sign**: below 2^64 it is read as such, else with double precision. -/
theorem readUnsigned_whole {digits rest : List Char} {minus : Bool} {c c' : Cursor} {n : Number}
    (hwhole : IsWhole digits) (hrest : Ends rest) (hc : c.rest = digits ++ rest)
    (h : readUnsigned minus c = .ok (n, c')) :
    (valueOf digits < 2 ^ 64 ∧ ∃ d, wholeNumber minus (valueOf digits) d = .ok (n, c')) ∨
      2 ^ 64 ≤ valueOf digits ∧ ∃ magnitude, n = .real minus magnitude := by
  obtain ⟨d, hd, hread⟩ := readUnsigned_eq hwhole hrest.noDigit hc minus
  rw [hread, readAfterWhole_end (hd ▸ hrest)] at h
  by_cases hsmall : valueOf digits < 2 ^ 64
  · rw [significandDigits_of_lt hwhole.isDigit 0 hsmall, Nat.zero_add, Nat.sub_self,
      if_pos rfl] at h
    exact .inl ⟨hsmall, d, h⟩
  · have hlarge : 2 ^ 64 ≤ valueOf digits := Nat.le_of_not_lt hsmall
    have hleft := significandDigits_of_le hwhole.isDigit 0 (by decide) hlarge
    rw [if_neg (by omega)] at h
    exact .inr ⟨hlarge, (realNumber_eq_ok h).2⟩

/-- What is written with double precision has a point or an exponent. -/
theorem point_or_exponent_of_scientific (x : Decimal.Digits) : '.' ∈ x.scientific.toList ∨
    'e' ∈ x.scientific.toList := by
  rw [Decimal.Digits.scientific]
  split
  · left
    rw [Decimal.Digits.positional]
    split
    · simp
    · split <;> simp
  · right
    simp

theorem point_or_exponent_of_real (minus : Bool) (magnitude : Decimal.Binary64) :
    '.' ∈ (Number.real minus magnitude).text.toList ∨
      'e' ∈ (Number.real minus magnitude).text.toList := by
  rw [Number.text, String.toList_append, List.mem_append, List.mem_append]
  exact (point_or_exponent_of_scientific (magnitude.shortest .even)).imp .inr .inr

theorem IsWhole.ne_minus {digits tail : List Char} (h : IsWhole digits) : digits ≠ '-' :: tail := by
  rintro rfl
  exact absurd (h.isDigit '-' List.mem_cons_self) (by decide)

theorem fits_plain_iff {digits : List Char} (h : IsWhole digits) : Fits digits ↔
    valueOf digits < 2 ^ 64 := by
  refine ⟨?_, .plain h⟩
  intro hfits
  cases hfits with
  | plain _ hsmall => exact hsmall
  | minus => exact absurd rfl h.ne_minus

theorem fits_minus_iff {digits : List Char} (h : IsWhole digits) :
    Fits ('-' :: digits) ↔ 0 < valueOf digits ∧ valueOf digits ≤ 2 ^ 63 := by
  refine ⟨?_, fun ⟨hpos, hsmall⟩ => .minus h hpos hsmall⟩
  intro hfits
  cases hfits with
  | plain hwhole => exact absurd rfl hwhole.ne_minus
  | minus _ hpos hsmall => exact ⟨hpos, hsmall⟩

/-- **Which whole numbers are read as such**: those that fit. The others have double precision. -/
theorem number_of_integer {text : List Char} {n : Number} (htext : IsInteger text)
    (h : ReadsNumber text n) :
    Fits text ∧ n.text.toList = text ∨ ¬ Fits text ∧
      ∃ minus magnitude, n = .real minus magnitude := by
  obtain ⟨rest, c, c', hrest, hc, h⟩ := h
  cases htext with
  | plain hwhole =>
    rw [fits_plain_iff hwhole]
    rw [readNumber_plain hwhole hc] at h
    rcases readUnsigned_whole hwhole hrest hc h with
      ⟨hsmall, d, hnumber⟩ | ⟨hlarge, magnitude, hreal⟩
    · obtain ⟨rfl, -⟩ := Prod.mk.inj (Except.ok.inj hnumber)
      exact .inl ⟨hsmall, decimal_valueOf hwhole⟩
    · exact .inr ⟨Nat.not_lt.mpr hlarge, false, magnitude, hreal⟩
  | @minus digits hwhole =>
    rw [fits_minus_iff hwhole]
    rw [readNumber_minus hc] at h
    rcases readUnsigned_whole hwhole hrest (Cursor.rest_skip_one hc) h with
      ⟨hsmall, d, hnumber⟩ | ⟨hlarge, magnitude, hreal⟩
    · -- of the numbers below 2^64, zero and those past 2^63 have no place below zero
      rw [wholeNumber, if_neg (by decide)] at hnumber
      split at hnumber
      next hnone =>
        refine .inr ⟨?_, true, (realNumber_eq_ok hnumber).2⟩
        rw [Bool.or_eq_true, decide_eq_true_eq, decide_eq_true_eq] at hnone
        rintro ⟨hpos, hle⟩
        rcases hnone with hzero | hlarge
        · exact absurd hzero (Nat.ne_of_gt hpos)
        · exact absurd hlarge (Nat.not_lt.mpr hle)
      next hplace =>
        rw [Bool.or_eq_true, decide_eq_true_eq, decide_eq_true_eq, not_or] at hplace
        obtain ⟨rfl, -⟩ := Prod.mk.inj (Except.ok.inj hnumber)
        refine .inl ⟨⟨Nat.pos_of_ne_zero hplace.1, Nat.le_of_not_lt hplace.2⟩, ?_⟩
        rw [Number.text, String.toList_append, decimal_valueOf hwhole]
        rfl
    · refine .inr ⟨?_, true, magnitude, hreal⟩
      rintro ⟨-, hle⟩
      exact absurd (Nat.le_trans hlarge hle) (by decide)

theorem IsInteger.no_point_or_exponent {text : List Char} (h : IsInteger text) :
    ¬ ('.' ∈ text ∨ 'e' ∈ text) := by
  have hwhole : ∀ {digits : List Char}, IsWhole digits → ¬ ('.' ∈ digits ∨ 'e' ∈ digits) := by
    rintro digits hdigits (hmem | hmem)
    · exact absurd (hdigits.isDigit _ hmem) (by decide)
    · exact absurd (hdigits.isDigit _ hmem) (by decide)
  cases h with
  | plain h => exact hwhole h
  | minus h =>
    rintro (hmem | hmem)
    · exact hwhole h (.inl (List.mem_of_ne_of_mem (by decide) hmem))
    · exact hwhole h (.inr (List.mem_of_ne_of_mem (by decide) hmem))

theorem IsInteger.isNumber {text : List Char} (h : IsInteger text) : IsNumber text := by
  have hnumber := IsNumber.mk h .absent .absent
  rwa [List.append_nil, List.append_nil] at hnumber

/-- What a whole number is read as is a number. -/
theorem Denotes.number_of_integer {text : List Char} {v : Value} (h : Denotes text v)
    (htext : IsInteger text) :
    ∃ n, v = .number n ∧ ReadsNumber text n := by
  obtain ⟨a, tail, rfl, ha⟩ := htext.isNumber.head
  cases h with
  | number _ hread => exact ⟨_, rfl, hread⟩
  | text hspells =>
    obtain ⟨inner, hinner⟩ := hspells.head
    rw [(List.cons.inj hinner).1] at ha
    exact absurd ha (by decide)
  | _ => exact absurd ha (by decide)

end AppRelease.Json

namespace AppRelease

/-! ## Secrets -/

namespace Secrets

theorem Store.exists_members_of_readPlain {root path content : String}
    {texts : List (String × String)}
    (h : (Store.mk root .json).readPlain path content = .ok texts) :
    ∃ members, Json.readObject content = .ok members ∧ scalars members = .ok texts := by
  cases hmembers : Json.readObject content with
  | error error => exact absurd h (by simp [readPlain, hmembers])
  | ok members =>
    cases hscalars : scalars members with
    | error fault => exact absurd h (by simp [readPlain_json_of_error hmembers hscalars])
    | ok entries =>
      rw [readPlain_json_of_ok hmembers hscalars] at h
      obtain rfl : entries = texts := Except.ok.inj h
      exact ⟨members, rfl, hscalars⟩

/-- **What a number in a file is loaded as**: the text of the number that its last member is read
as. -/
theorem Store.load_number {root application content key : String} {files : FileTree}
    {e : Environment} {fields : List (String × List Char)} {bundle : Bundle} {literal : List Char}
    (hfile : files.readText ((Store.mk root .json).pathFor application e) = .ok content)
    (hload : (Store.mk root .json).load files application e = .ok bundle)
    (hdocument : Json.IsDocument fields content.toList) (hlast : LastEntry fields key literal)
    (hinteger : Json.IsInteger literal) : ∃ n, Json.ReadsNumber literal n ∧
      bundle.get? key = some (Base64.encode (Text.bytesOf n.text)) := by
  obtain ⟨plain, ⟨found, texts, hfound, hread, rfl⟩, hencodes⟩ := Store.exists_holds_of_load hload
  obtain rfl : content = found := Except.ok.inj (hfile.symm.trans hfound)
  obtain ⟨members, hmembers, hscalars⟩ := Store.exists_members_of_readPlain hread
  obtain ⟨hdistinct, -, -, hmem⟩ := scalars_of_ok hscalars
  -- the last value of the key in the document is the last value among the members
  obtain ⟨value, hvalue, hdenotes⟩ :=
    exists_lastEntry_of_field (Json.matches_of_isDocument hdocument hmembers) hlast
  obtain ⟨n, rfl, hn⟩ := hdenotes.number_of_integer hinteger
  refine ⟨n, hn, ?_⟩
  have htext : (key, n.text) ∈ texts := (hmem key n.text).mpr ⟨_, hvalue, .number⟩
  rw [hencodes, Dict.get?_ofList, (lastValue?_eq_some_iff_mem hdistinct).mpr htext]
  rfl

/-- **Whole numbers that fit in 64 bits keep their digits**, and no others do. In a file that is
loaded, the last value of a key that is a whole number is decoded to the characters of that number
exactly if it fits; if not, to a text with a point or an exponent. -/
theorem integers_in_64_bits_keep_digits {root application content key : String} {files : FileTree}
    {e : Environment} {fields : List (String × List Char)} {bundle : Bundle} {literal : List Char}
    (hfile : files.readText ((Store.mk root .json).pathFor application e) = .ok content)
    (hload : (Store.mk root .json).load files application e = .ok bundle)
    (hdocument : Json.IsDocument fields content.toList) (hlast : LastEntry fields key literal)
    (hinteger : Json.IsInteger literal) :
    ∃ encoded text, bundle.get? key = some encoded ∧ decode encoded = .ok (Text.bytesOf text) ∧
      (text.toList = literal ↔ Json.Fits literal) ∧
      (¬ Json.Fits literal → '.' ∈ text.toList ∨ 'e' ∈ text.toList) := by
  obtain ⟨n, hn, hget⟩ := Store.load_number hfile hload hdocument hlast hinteger
  refine ⟨_, n.text, hget, decode_encode _, ?_⟩
  rcases Json.number_of_integer hinteger hn with ⟨hfits, htext⟩ | ⟨hnot, minus, magnitude, rfl⟩
  · exact ⟨⟨fun _ => hfits, fun _ => htext⟩, fun h => absurd hfits h⟩
  · have hmark := Json.point_or_exponent_of_real minus magnitude
    refine ⟨⟨?_, fun h => absurd h hnot⟩, fun _ => hmark⟩
    intro htext
    rw [htext] at hmark
    exact absurd hmark hinteger.no_point_or_exponent

/-- A file of secrets in JSON. -/
def pinFiles (content : String) : FileTree where
  nodes := [([".secrets"], .directory), ([".secrets", "local"], .directory),
    ([".secrets", "local", "app.json"], .file (Text.bytesOf content))]

theorem isLead_pin : Json.IsLead "PIN" "\"PIN\": ".toList := by
  have hlead := Json.IsLead.mk Json.isSpace_nil (Json.spellsText_writeText "PIN") Json.isSpace_nil
    (show Json.IsSpace [' '] by simp [Json.IsSpace])
  exact hlead

/-- The greatest number that fits, after a list under the same key. -/
theorem integers_in_64_bits_keep_digits_greatest :
    ∃ bundle encoded text, (Store.mk ".secrets" .json).load
        (pinFiles "\x7b\"PIN\": [null],\"PIN\": 18446744073709551615\x7d") "app" .localMachine =
          .ok bundle ∧
      bundle.get? "PIN" = some encoded ∧ decode encoded = .ok (Text.bytesOf text) ∧
      text.toList = "18446744073709551615".toList := by
  have hwhole : Json.IsWhole "18446744073709551615".toList :=
    show Json.IsWhole ('1' :: "8446744073709551615".toList) from
      .digits (by decide) (by decide) (List.all_eq_true.mp (by decide))
  have hlist : Json.Written .value "[null]".toList :=
    .list (.oneItem Json.isSpace_nil .null Json.isSpace_nil)
  have hdocument :
      Json.IsDocument [("PIN", "[null]".toList), ("PIN", "18446744073709551615".toList)]
        "\x7b\"PIN\": [null],\"PIN\": 18446744073709551615\x7d".toList :=
    .members Json.isSpace_nil (.moreMembers isLead_pin hlist Json.isSpace_nil
      (.oneMember isLead_pin (.number (Json.IsInteger.plain hwhole).isNumber) Json.isSpace_nil))
      Json.isSpace_nil
  have hload : ∃ bundle, (Store.mk ".secrets" .json).load
      (pinFiles "\x7b\"PIN\": [null],\"PIN\": 18446744073709551615\x7d") "app" .localMachine =
        .ok bundle :=
    exists_eq_ok_of_isSome (by decide +kernel)
  obtain ⟨bundle, hload⟩ := hload
  obtain ⟨encoded, text, hget, hdecode, hdigits, -⟩ :=
    integers_in_64_bits_keep_digits (by decide +kernel) hload hdocument
    ⟨[("PIN", "[null]".toList)], [], rfl, by simp⟩ (.plain hwhole)
  exact ⟨bundle, encoded, text, hload, hget, hdecode, hdigits.mpr (.plain hwhole (by decide))⟩

/-- The number after it is a whole number of the format and is loaded as another text. -/
theorem next_pin_rounded :
    Json.IsDocument [("PIN", "18446744073709551616".toList)]
      "\x7b\"PIN\": 18446744073709551616\x7d".toList ∧
    Json.IsInteger "18446744073709551616".toList ∧
    ((Store.mk ".secrets" .json).load
      (pinFiles "\x7b\"PIN\": 18446744073709551616\x7d") "app" .localMachine).toOption.bind
      (·.get? "PIN") = some (Base64.encode (Text.bytesOf "1.8446744073709552e+19")) ∧
    decode (Base64.encode (Text.bytesOf "1.8446744073709552e+19")) ≠
      .ok (Text.bytesOf "18446744073709551616") := by
  have hinteger : Json.IsInteger "18446744073709551616".toList :=
    .plain (show Json.IsWhole ('1' :: "8446744073709551616".toList) from
      .digits (by decide) (by decide) (List.all_eq_true.mp (by decide)))
  refine ⟨?_, hinteger, by decide +kernel, by decide +kernel⟩
  exact .members Json.isSpace_nil
    (.oneMember isLead_pin (.number hinteger.isNumber) Json.isSpace_nil) Json.isSpace_nil

end Secrets

end AppRelease
