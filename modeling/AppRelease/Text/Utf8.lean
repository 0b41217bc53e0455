/-!
# Texts as bytes

Program: `bytesOf` writes a text in UTF-8, `textOf?` reads bytes that are UTF-8, `lossy` reads any
bytes. Crux: `textOf?` and `bytesOf` undo each other, so a text and its bytes say the same.
-/

namespace AppRelease.Text

/-- The UTF-8 bytes of a text. -/
def bytesOf (s : String) : List UInt8 := s.toUTF8.data.toList

/-- The text whose UTF-8 bytes these are, when there is one. -/
def textOf? (bytes : List UInt8) : Option String := String.fromUTF8? ⟨bytes.toArray⟩

/-- The bytes of a text read back as that text. -/
@[simp] theorem textOf?_bytesOf (s : String) : textOf? (bytesOf s) = some s := by
  simp [textOf?, bytesOf, String.fromUTF8?, String.fromUTF8,
    s.isValidUTF8]

/-- What reads as a text is that text's bytes. -/
theorem bytesOf_of_textOf? {bytes : List UInt8} {s : String} (h : textOf? bytes = some s) :
    bytesOf s = bytes := by
  simp only [textOf?, String.fromUTF8?] at h
  split at h
  · simp only [Option.some.injEq] at h
    subst h
    simp [bytesOf, String.fromUTF8]
  · exact absurd h (by simp)

/-- Bytes read as a text exactly when they are the bytes of one. -/
theorem textOf?_eq_some_iff {bytes : List UInt8} {s : String} :
    textOf? bytes = some s ↔ bytes = bytesOf s :=
  ⟨fun h => (bytesOf_of_textOf? h).symm, fun h => h ▸ textOf?_bytesOf s⟩

/-! ## Reading any bytes -/

/-- Stands for bytes that are no character. -/
def replacement : Char := '�'

/-- The six bits that a following byte carries. -/
def sixBits (b : UInt8) : Nat := b.toNat % 64

/-- A byte that continues a character. -/
def isFollowing (b : UInt8) : Bool := 0x80 ≤ b && b ≤ 0xBF

/-- The second byte that may follow the first byte of a character of three bytes: no long forms and
no surrogates. -/
def mayFollowThree (a b : UInt8) : Bool :=
  if a == 0xE0 then 0xA0 ≤ b && b ≤ 0xBF
  else if a == 0xED then 0x80 ≤ b && b ≤ 0x9F
  else isFollowing b

/-- The second byte that may follow the first byte of a character of four bytes: no long forms and
nothing above U+10FFFF. -/
def mayFollowFour (a b : UInt8) : Bool :=
  if a == 0xF0 then 0x90 ≤ b && b ≤ 0xBF
  else if a == 0xF4 then 0x80 ≤ b && b ≤ 0x8F
  else isFollowing b

/-- The character that the bytes start with and the bytes after it. Where no character starts, the
longest part that could have become one is replaced as a whole. -/
def nextLossy (a : UInt8) (rest : List UInt8) : Char × List UInt8 :=
  if a < 0x80 then (Char.ofNat a.toNat, rest)
  else if 0xC2 ≤ a && a ≤ 0xDF then
    match rest with
    | b :: rest₁ =>
      if isFollowing b then (Char.ofNat (a.toNat % 32 * 64 + sixBits b), rest₁)
      else (replacement, rest)
    | [] => (replacement, rest)
  else if 0xE0 ≤ a && a ≤ 0xEF then
    match rest with
    | b :: rest₁ =>
      if mayFollowThree a b then
        match rest₁ with
        | c :: rest₂ =>
          if isFollowing c then
            (Char.ofNat (a.toNat % 16 * 4096 + sixBits b * 64 + sixBits c), rest₂)
          else (replacement, rest₁)
        | [] => (replacement, rest₁)
      else (replacement, rest)
    | [] => (replacement, rest)
  else if 0xF0 ≤ a && a ≤ 0xF4 then
    match rest with
    | b :: rest₁ =>
      if mayFollowFour a b then
        match rest₁ with
        | c :: rest₂ =>
          if isFollowing c then
            match rest₂ with
            | d :: rest₃ =>
              if isFollowing d then
                (Char.ofNat (a.toNat % 8 * 262144 + sixBits b * 4096 + sixBits c * 64 + sixBits d),
                  rest₃)
              else (replacement, rest₂)
            | [] => (replacement, rest₂)
          else (replacement, rest₁)
        | [] => (replacement, rest₁)
      else (replacement, rest)
    | [] => (replacement, rest)
  else (replacement, rest)

/-- Reading one character leaves no more than was there after the first byte. -/
theorem length_nextLossy_le (a : UInt8) (rest : List UInt8) :
    (nextLossy a rest).2.length ≤ rest.length := by
  unfold nextLossy
  repeat' split
  all_goals simp only [List.length_cons]
  all_goals omega

/-- Every character of the bytes, with U+FFFD for each part that is none. -/
def lossyChars : List UInt8 → List Char
  | [] => []
  | a :: rest => (nextLossy a rest).1 :: lossyChars (nextLossy a rest).2
termination_by bytes => bytes.length
decreasing_by
  have := length_nextLossy_le a rest
  simp only [List.length_cons]
  omega

/-- The text of any bytes, with U+FFFD for each part that is no character. -/
def lossy (bytes : List UInt8) : String := String.ofList (lossyChars bytes)

end AppRelease.Text
