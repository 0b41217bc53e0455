/-!
# Cutting a text

Program: `cutAt` splits at the first occurrence of a character, `lines` splits into lines,
`joinWith` puts texts together again, `smallLetters` makes capitals small. A line ends at a line
feed; one carriage return before the line feed belongs to the end of the line, and the last line
needs no end.
-/

namespace AppRelease.Text

/-- What stands before and after the first `c`; nothing when there is none. -/
def cutAt (c : Char) : List Char → Option (List Char × List Char)
  | [] => none
  | a :: rest =>
    if a = c then some ([], rest)
    else (cutAt c rest).map fun parts => (a :: parts.1, parts.2)

/-- The lines of a text, without their ends. -/
def lines : List Char → List (List Char)
  | [] => []
  | '\n' :: rest => [] :: lines rest
  | '\r' :: '\n' :: rest => [] :: lines rest
  | c :: rest =>
    match lines rest with
    | [] => [[c]]
    | first :: others => (c :: first) :: others

/-- The pieces between the occurrences of `c`: one more than there are occurrences. -/
def pieces (c : Char) : List Char → List (List Char)
  | [] => [[]]
  | a :: rest =>
    if a = c then [] :: pieces c rest
    else match pieces c rest with
      | [] => [[a]]
      | first :: others => (a :: first) :: others

/-- What follows `lead`, when the list starts with it. -/
def after? {α : Type} [DecidableEq α] : List α → List α → Option (List α)
  | [], rest => some rest
  | _ :: _, [] => none
  | a :: lead, b :: rest => if a = b then after? lead rest else none

/-- Texts one after the other with `separator` between them. -/
def joinWith (separator : String) : List String → String
  | [] => ""
  | [s] => s
  | s :: rest => s ++ separator ++ joinWith separator rest

/-- One item a line, each after a dash. -/
def bullets (items : List String) : String :=
  items.foldr (fun item rest => "\n  - " ++ item ++ rest) ""

/-- ASCII capitals made small. -/
def smallLetters (s : String) : String := String.ofList (s.toList.map Char.toLower)

/-- A text cut at `c` is the first part, which has no `c`, then `c`, then the second part. -/
theorem cutAt_eq_some_iff {c : Char} {cs before rest : List Char} :
    cutAt c cs = some (before, rest) ↔ cs = before ++ c :: rest ∧ c ∉ before := by
  induction cs generalizing before with
  | nil => simp [cutAt]
  | cons a as ih =>
    by_cases h : a = c
    · subst h
      simp only [cutAt, ↓reduceIte, Option.some.injEq, Prod.mk.injEq]
      constructor
      · rintro ⟨rfl, rfl⟩
        simp
      · rintro ⟨split, absent⟩
        cases before with
        | nil => simpa using split
        | cons b bs => simp_all
    · simp only [cutAt, h, ↓reduceIte, Option.map_eq_some_iff, Prod.mk.injEq, Prod.exists]
      constructor
      · rintro ⟨front, back, found, rfl, rfl⟩
        obtain ⟨split, absent⟩ := ih.mp found
        exact ⟨by simp [split], by simp [absent, Ne.symm h]⟩
      · rintro ⟨split, absent⟩
        cases before with
        | nil => simp_all
        | cons b bs =>
          simp only [List.cons_append, List.cons.injEq] at split
          obtain ⟨rfl, split⟩ := split
          exact ⟨bs, rest, ih.mpr ⟨split, by simp_all⟩, rfl, rfl⟩

/-- There is nothing to cut exactly when the character does not occur. -/
theorem cutAt_eq_none_iff {c : Char} {cs : List Char} : cutAt c cs = none ↔ c ∉ cs := by
  induction cs with
  | nil => simp [cutAt]
  | cons a as ih =>
    by_cases h : a = c
    · simp [cutAt, h]
    · simp [cutAt, h, ih, Ne.symm h]

end AppRelease.Text
