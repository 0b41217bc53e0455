/-!
# Blank characters and trimming

Program: `isBlank` is the White_Space property of Unicode, `trim` removes blanks from both ends of a
text. Crux: only blanks are removed, and what is left starts and ends with a character that is not
blank; a text is blank when nothing is left of it.
-/

namespace AppRelease.Text

/-- The White_Space property: the controls U+0009 to U+000D, the spaces and the two separators.
U+200B and U+FEFF are not blank. -/
def isBlank (c : Char) : Bool :=
  let n := c.toNat
  (9 ≤ n && n ≤ 13) || n == 0x20 || n == 0x85 || n == 0xA0 || n == 0x1680
    || (0x2000 ≤ n && n ≤ 0x200A) || n == 0x2028 || n == 0x2029 || n == 0x202F
    || n == 0x205F || n == 0x3000

/-- A list without its longest final part whose members all satisfy `p`. -/
def dropEndWhile {α : Type} (p : α → Bool) : List α → List α
  | [] => []
  | a :: rest =>
    match dropEndWhile p rest with
    | [] => if p a then [] else [a]
    | kept => a :: kept

/-- The characters between the first and the last that are not blank. -/
def trimChars (cs : List Char) : List Char :=
  dropEndWhile isBlank (cs.dropWhile isBlank)

/-- A text without the blanks around it. -/
def trim (s : String) : String :=
  String.ofList (trimChars s.toList)

/-- Nothing is left of a blank text. -/
def isBlankText (s : String) : Bool :=
  (trimChars s.toList).isEmpty

/-- A text without the characters `c` at its end. -/
def trimEnd (c : Char) (s : String) : String :=
  String.ofList (dropEndWhile (· == c) s.toList)

/-- A text without the characters `c` at its start. -/
def trimStart (c : Char) (s : String) : String :=
  String.ofList (s.toList.dropWhile (· == c))

/-! ## Laws -/

/-- Everything up to the last member outside `p` is kept. -/
theorem dropEndWhile_append_of_neg {α : Type} {p : α → Bool} {a : α} (l : List α)
    (h : p a = false) :
    dropEndWhile p (l ++ [a]) = l ++ [a] := by
  induction l with
  | nil => simp [dropEndWhile, h]
  | cons b rest ih =>
    simp only [List.cons_append, dropEndWhile, ih]
    cases rest <;> simp

/-- A final member inside `p` is dropped. -/
theorem dropEndWhile_append_of_pos {α : Type} {p : α → Bool} {a : α} (l : List α) (h : p a = true) :
    dropEndWhile p (l ++ [a]) = dropEndWhile p l := by
  induction l with
  | nil => simp [dropEndWhile, h]
  | cons b rest ih => simp only [List.cons_append, dropEndWhile, ih]

/-- Only members inside `p` are dropped. -/
theorem exists_append_dropEndWhile {α : Type} (p : α → Bool) (l : List α) :
    ∃ dropped, l = dropEndWhile p l ++ dropped ∧ ∀ a ∈ dropped, p a = true := by
  induction l with
  | nil => exact ⟨[], rfl, by simp⟩
  | cons a rest ih =>
    obtain ⟨dropped, split, inside⟩ := ih
    simp only [dropEndWhile]
    cases kept : dropEndWhile p rest with
    | nil =>
      rw [kept] at split
      by_cases ha : p a = true
      · refine ⟨a :: dropped, by simp [ha, split], ?_⟩
        intro b hb
        rcases List.mem_cons.mp hb with rfl | hb
        · exact ha
        · exact inside b hb
      · exact ⟨dropped, by simp [ha, split], inside⟩
    | cons b kept' =>
      rw [kept] at split
      exact ⟨dropped, by simp [split], inside⟩

end AppRelease.Text
