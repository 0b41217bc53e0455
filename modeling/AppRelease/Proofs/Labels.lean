import AppRelease.Application.Template
import AppRelease.Proofs.ByteOrder

/-!
# Labels and tags

Program: `isLabel` makes four tests. It counts bytes, asks for a letter or a digit at each end, and
looks at every character. Bytes are not characters, and a letter at an end may be a capital.
`isImageTag` takes the first character apart from the others and counts these.

Specification: `LabelText` counts characters, names the ones that may occur, and keeps the hyphen
from both ends. `isLabel_exactly_label_texts` says that the four tests together accept these texts
and no others. `TagText` says the same of tags, and `isImageTag_iff_tagText` that these are
accepted.

Crux: the test of every character makes the others exact. A character that may occur in a label is
one byte (`utf8ByteSize_eq_length`), and it is a letter or a digit unless it is the hyphen
(`isAlphanum_iff_ne_hyphen`).
-/

namespace AppRelease

/-- The characters that may occur in a label: small letters, digits and the hyphen. -/
def LabelCharacter (c : Char) : Prop := ('a' ≤ c ∧ c ≤ 'z') ∨ ('0' ≤ c ∧ c ≤ '9') ∨ c = '-'

/-- A label: one to 63 characters that may occur in one, the first and the last of them no
hyphen. -/
structure LabelText (s : String) : Prop where
  nonempty : 1 ≤ s.length
  short : s.length ≤ 63
  characters : ∀ c ∈ s.toList, LabelCharacter c
  first : s.toList.head? ≠ some '-'
  last : s.toList.getLast? ≠ some '-'

/-! ## The four tests -/

section Tests

variable {s : String} {c : Char}

theorem labelCharacter_iff : LabelCharacter c ↔ isSmallLetter c = true ∨ c.isDigit = true ∨
    c = '-' := by
  have hsmall : isSmallLetter c = true ↔ 'a' ≤ c ∧ c ≤ 'z' := by simp [isSmallLetter]
  have hdigit : c.isDigit = true ↔ '0' ≤ c ∧ c ≤ '9' := by
    show (decide ('0' ≤ c) && decide (c ≤ '9')) = true ↔ _
    simp
  rw [LabelCharacter, hsmall, hdigit]

/-- **What the four tests are.** An empty text has no first character, so it fails the second. -/
theorem isLabel_iff : isLabel s = true ↔ s.utf8ByteSize ≤ 63 ∧
    (∃ c, s.toList.head? = some c ∧ c.isAlphanum = true) ∧
    (∃ c, s.toList.getLast? = some c ∧ c.isAlphanum = true) ∧
    ∀ c ∈ s.toList, LabelCharacter c := by
  simp only [isLabel, Bool.and_eq_true, decide_eq_true_iff, List.all_eq_true,
    Bool.or_eq_true, beq_iff_eq, labelCharacter_iff, or_assoc, and_assoc]
  cases s.toList.head? <;> cases s.toList.getLast? <;> simp

/-- The characters of a label. -/
theorem mem_of_isLabel (h : isLabel s = true) (hc : c ∈ s.toList) :
    isSmallLetter c = true ∨ c.isDigit = true ∨ c = '-' :=
  labelCharacter_iff.mp ((isLabel_iff.mp h).2.2.2 c hc)

theorem ne_nil_of_isLabel (h : isLabel s = true) : s.toList ≠ [] := by
  obtain ⟨-, ⟨first, hfirst, -⟩, -⟩ := isLabel_iff.mp h
  intro hnil
  simp [hnil] at hfirst

/-- A character of no label does not occur in one. -/
theorem not_mem_of_isLabel (h : isLabel s = true)
    (hc : (isSmallLetter c || c.isDigit || c == '-') = false) : c ∉ s.toList := by
  intro hmem
  rcases mem_of_isLabel h hmem with hsmall | hdigit | hhyphen
  · simp [hsmall] at hc
  · simp [hdigit] at hc
  · simp [hhyphen] at hc

/-! ## What may occur in a label -/

/-- The characters of labels are ASCII. -/
theorem LabelCharacter.toNat_lt (h : LabelCharacter c) : c.toNat < 128 := by
  rcases h with ⟨-, hz⟩ | ⟨-, hnine⟩ | rfl
  · have hle : c.toNat ≤ 122 := hz
    omega
  · have hle : c.toNat ≤ 57 := hnine
    omega
  · decide

/-- A character that may occur in a label is one byte. -/
theorem LabelCharacter.utf8Size (h : LabelCharacter c) : c.utf8Size = 1 :=
  Char.utf8Size_eq_one_iff.mpr (UInt32.le_iff_toNat_le.mpr (Nat.le_of_lt_succ h.toNat_lt))

theorem length_flatMap_utf8EncodeChar {cs : List Char} (h : ∀ c ∈ cs, LabelCharacter c) :
    (cs.flatMap String.utf8EncodeChar).length = cs.length := by
  induction cs with
  | nil => rfl
  | cons c rest ih =>
    obtain ⟨hc, hrest⟩ := List.forall_mem_cons.mp h
    rw [List.flatMap_cons, List.length_append, String.length_utf8EncodeChar, hc.utf8Size, ih hrest,
      List.length_cons, Nat.add_comm]

/-- A text of characters that may occur in a label has as many bytes as characters. -/
theorem utf8ByteSize_eq_length (h : ∀ c ∈ s.toList, LabelCharacter c) : s.utf8ByteSize = s.length :=
  calc s.utf8ByteSize
      = (Text.bytesOf s).length := rfl
    _ = s.toList.length := by rw [Text.bytesOf_eq_flatMap, length_flatMap_utf8EncodeChar h]
    _ = s.length := String.length_toList

/-- Of the characters that may occur in a label, the hyphen alone is neither a letter nor a
digit. -/
theorem LabelCharacter.isAlphanum_iff_ne_hyphen (h : LabelCharacter c) : c.isAlphanum = true ↔
    c ≠ '-' := by
  rcases labelCharacter_iff.mp h with hsmall | hdigit | rfl
  · have hlower : c.isLower = true := hsmall
    have halphanum : c.isAlphanum = true := by
      show (c.isUpper || c.isLower || c.isDigit) = true
      simp [hlower]
    refine iff_of_true halphanum ?_
    rintro rfl
    exact absurd hsmall (by decide)
  · have halphanum : c.isAlphanum = true := by
      show (c.isAlpha || c.isDigit) = true
      simp [hdigit]
    refine iff_of_true halphanum ?_
    rintro rfl
    exact absurd hdigit (by decide)
  · decide

/-- At an end of a text, the test for a letter or a digit keeps out the hyphen and nothing else. -/
theorem end_isAlphanum_iff {end? : Option Char} (hsome : end? ≠ none)
    (hcharacter : ∀ c, end? = some c → LabelCharacter c) :
    (∃ c, end? = some c ∧ c.isAlphanum = true) ↔ end? ≠ some '-' := by
  obtain ⟨c, rfl⟩ := Option.ne_none_iff_exists'.mp hsome
  simp [(hcharacter c rfl).isAlphanum_iff_ne_hyphen]

/-- Both ends of a text that is not empty. -/
theorem ends_isAlphanum_iff (hne : s.toList ≠ []) (hcharacters : ∀ c ∈ s.toList, LabelCharacter c) :
    ((∃ c, s.toList.head? = some c ∧ c.isAlphanum = true) ↔ s.toList.head? ≠ some '-') ∧
    ((∃ c, s.toList.getLast? = some c ∧ c.isAlphanum = true) ↔ s.toList.getLast? ≠ some '-') :=
  ⟨end_isAlphanum_iff (mt List.head?_eq_none_iff.mp hne) fun c hc =>
    hcharacters c (List.mem_of_head? hc),
      end_isAlphanum_iff (mt List.getLast?_eq_none_iff.mp hne) fun c hc =>
      hcharacters c (List.mem_of_getLast? hc)⟩

end Tests

/-- **The four tests accept exactly the labels**, whatever the text. -/
theorem isLabel_exactly_label_texts (s : String) : isLabel s = true ↔ LabelText s := by
  have hlength : 1 ≤ s.length ↔ s.toList ≠ [] := by
    rw [← String.length_toList]
    exact List.length_pos_iff
  constructor
  · intro h
    have hne := ne_nil_of_isLabel h
    obtain ⟨hbytes, hfirst, hlast, hcharacters⟩ := isLabel_iff.mp h
    obtain ⟨hatFirst, hatLast⟩ := ends_isAlphanum_iff hne hcharacters
    rw [utf8ByteSize_eq_length hcharacters] at hbytes
    exact ⟨hlength.mpr hne, hbytes, hcharacters, hatFirst.mp hfirst, hatLast.mp hlast⟩
  · rintro ⟨hnonempty, hshort, hcharacters, hfirst, hlast⟩
    obtain ⟨hatFirst, hatLast⟩ := ends_isAlphanum_iff (hlength.mp hnonempty) hcharacters
    rw [← utf8ByteSize_eq_length hcharacters] at hshort
    exact isLabel_iff.mpr ⟨hshort, hatFirst.mpr hfirst, hatLast.mpr hlast, hcharacters⟩

example : isLabel "graphql-mongo" = true ∧ isLabel "-web" = false := by decide

/-! ## Tags -/

/-- The characters that may occur in a tag: letters, digits, the underscore, the point and the
hyphen. -/
def TagCharacter (c : Char) : Prop :=
  ('A' ≤ c ∧ c ≤ 'Z') ∨ ('a' ≤ c ∧ c ≤ 'z') ∨ ('0' ≤ c ∧ c ≤ '9') ∨ c = '_' ∨ c = '.' ∨ c = '-'

/-- A tag: one to 128 characters that may occur in one, the first of them neither a point nor a
hyphen. -/
structure TagText (s : String) : Prop where
  nonempty : 1 ≤ s.length
  short : s.length ≤ 128
  characters : ∀ c ∈ s.toList, TagCharacter c
  noPoint : s.toList.head? ≠ some '.'
  noHyphen : s.toList.head? ≠ some '-'

theorem isAlphanum_iff {c : Char} : c.isAlphanum = true ↔
    ('A' ≤ c ∧ c ≤ 'Z') ∨ ('a' ≤ c ∧ c ≤ 'z') ∨ ('0' ≤ c ∧ c ≤ '9') := by
  have hclasses : c.isAlphanum =
      (decide ('A' ≤ c ∧ c ≤ 'Z') || (decide ('a' ≤ c) && decide (c ≤ 'z')) ||
      (decide ('0' ≤ c) && decide (c ≤ '9'))) := rfl
  simp only [hclasses, Bool.or_eq_true, Bool.and_eq_true, decide_eq_true_eq, or_assoc]

theorem continuesTag_iff {c : Char} : continuesTag c = true ↔ TagCharacter c := by
  simp only [continuesTag, startsTag, Bool.or_eq_true, beq_iff_eq, isAlphanum_iff,
    TagCharacter, or_assoc]

/-- What may start a tag is what may follow, but for the point and the hyphen. -/
theorem startsTag_iff {c : Char} : startsTag c = true ↔ TagCharacter c ∧ c ≠ '.' ∧ c ≠ '-' := by
  rw [← continuesTag_iff]
  simp only [continuesTag, Bool.or_eq_true, beq_iff_eq]
  constructor
  · intro hstarts
    refine ⟨.inl (.inl hstarts), ?_, ?_⟩
    · rintro rfl
      exact absurd hstarts (by decide)
    · rintro rfl
      exact absurd hstarts (by decide)
  · rintro ⟨(hstarts | hpoint) | hhyphen, hnoPoint, hnoHyphen⟩
    · exact hstarts
    · exact absurd hpoint hnoPoint
    · exact absurd hhyphen hnoHyphen

/-- **Exactly the tags are accepted**, whatever the text. -/
theorem isImageTag_iff_tagText {s : String} : isImageTag s = true ↔ TagText s := by
  cases hchars : s.toList with
  | nil =>
    have hlength : s.length = 0 := by rw [← String.length_toList, hchars, List.length_nil]
    refine iff_of_false (by simp [isImageTag, hchars]) ?_
    intro htag
    exact absurd htag.nonempty (by omega)
  | cons first rest =>
    have hlength : s.length = rest.length + 1 := by
      rw [← String.length_toList, hchars, List.length_cons]
    have htests : isImageTag s = true ↔
        (TagCharacter first ∧ first ≠ '.' ∧ first ≠ '-') ∧
          (∀ c ∈ rest, TagCharacter c) ∧ rest.length ≤ 127 := by
      simp only [isImageTag, hchars, Bool.and_eq_true, List.all_eq_true, decide_eq_true_eq,
        startsTag_iff, continuesTag_iff, and_assoc]
    rw [htests]
    constructor
    · rintro ⟨⟨hfirst, hpoint, hhyphen⟩, hrest, hshort⟩
      refine ⟨by omega, by omega, ?_, ?_, ?_⟩
      · rw [hchars]
        exact List.forall_mem_cons.mpr ⟨hfirst, hrest⟩
      · simpa [hchars] using hpoint
      · simpa [hchars] using hhyphen
    · rintro ⟨-, hshort, hcharacters, hpoint, hhyphen⟩
      rw [hchars] at hcharacters
      obtain ⟨hfirst, hrest⟩ := List.forall_mem_cons.mp hcharacters
      refine ⟨⟨hfirst, ?_, ?_⟩, hrest, by omega⟩
      · simpa [hchars] using hpoint
      · simpa [hchars] using hhyphen

example : isImageTag "v1.2-rc_3" = true ∧ isImageTag ".v1" = false := by decide

end AppRelease
