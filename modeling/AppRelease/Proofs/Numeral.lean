import AppRelease.Numeral

/-!
# Reading back whole numbers

Specification: `readDigits_eq_ok_iff` says which texts are read as a number up to a limit, and as
which: digits only, with a value in decimal notation that the limit allows. What is written as a
number is read as that number (`readBounded_decimal`).

Crux: the limit is checked after every digit. More digits never make a number smaller, so a number
that the limit allows at the end was allowed all along (`le_ofDigitChars`).
-/

namespace AppRelease.Numeral

/-- Digits that follow do not make a number smaller. -/
theorem le_ofDigitChars (n : Nat) (cs : List Char) : n ≤ Nat.ofDigitChars 10 cs n := by
  induction cs generalizing n with
  | nil => exact Nat.le_of_eq Nat.ofDigitChars_nil.symm
  | cons c rest ih =>
    rw [Nat.ofDigitChars_cons]
    have hrest := ih (10 * n + (c.toNat - '0'.toNat))
    omega

/-- **Which digits are read, and as which number.** -/
theorem readDigits_eq_ok_iff {limit n m : Nat} {cs : List Char} (hn : n ≤ limit) :
    readDigits limit n cs = .ok m ↔
      (∀ c ∈ cs, c.isDigit = true) ∧ m = Nat.ofDigitChars 10 cs n ∧ m ≤ limit := by
  induction cs generalizing n with
  | nil =>
    rw [readDigits, Nat.ofDigitChars_nil, Except.ok.injEq]
    constructor
    · rintro rfl
      exact ⟨by simp, rfl, hn⟩
    · rintro ⟨-, rfl, -⟩
      rfl
  | cons c rest ih =>
    rw [readDigits, digit?, Nat.ofDigitChars_cons, List.forall_mem_cons]
    by_cases hc : c.isDigit = true
    · simp only [if_pos hc]
      by_cases hlarge : limit < 10 * n + (c.toNat - '0'.toNat)
      · -- the number is past the limit already, and what follows only adds to it
        have hbeyond := le_ofDigitChars (10 * n + (c.toNat - '0'.toNat)) rest
        rw [if_pos hlarge]
        constructor
        · intro h
          exact absurd h (by simp)
        · rintro ⟨-, rfl, hle⟩
          omega
      · rw [if_neg hlarge, ih (by omega)]
        simp [hc]
    · simp [hc]

/-- Numbers that start with a digit have no sign. -/
theorem readBounded_of_digits {limit : Nat} {cs : List Char} (hne : cs ≠ [])
    (hdigits : ∀ c ∈ cs, c.isDigit = true) : readBounded limit cs = readDigits limit 0 cs := by
  cases cs with
  | nil => exact absurd rfl hne
  | cons c rest =>
    have hsign : c ≠ '+' := by
      rintro rfl
      exact absurd (hdigits '+' List.mem_cons_self) (by decide)
    simp [readBounded, hsign]

/-- The digits of a number are digits. -/
theorem isDigit_of_mem_decimal {n : Nat} {c : Char} (h : c ∈ (decimal n).toList) :
    c.isDigit = true := by
  rw [decimal, String.toList_ofList] at h
  exact Nat.isDigit_of_mem_toDigits (by decide) (by decide) h

theorem toList_decimal_ne_nil (n : Nat) : (decimal n).toList ≠ [] := by
  rw [decimal, String.toList_ofList]
  exact Nat.toDigits_ne_nil

/-- **What is written as a number is read as that number**, if the limit allows it. -/
theorem readBounded_decimal {limit n : Nat} (h : n ≤ limit) :
    readBounded limit (decimal n).toList = .ok n := by
  have hdigits : ∀ c ∈ (decimal n).toList, c.isDigit = true := fun _ => isDigit_of_mem_decimal
  rw [readBounded_of_digits (toList_decimal_ne_nil n) hdigits,
    readDigits_eq_ok_iff (Nat.zero_le limit)]
  refine ⟨hdigits, ?_, h⟩
  rw [decimal, String.toList_ofList, Nat.ofDigitChars_ten_toDigits]

end AppRelease.Numeral
