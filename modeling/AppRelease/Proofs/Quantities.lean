import AppRelease.Proofs.Configuration
import AppRelease.Proofs.Numeral
import AppRelease.Quantity

/-!
# Reading back quantities

Specification: what `Memory.text` and `Cpu.text` write is read by `Memory.parse` and `Cpu.parse` as
the same quantity (`Memory.parse_text`, `Cpu.parse_text`), and the bytes of an amount of memory,
computed in words of 128 bits, are the bytes of that amount (`Memory.toNat_word`). How a unit is
written and how many bytes it is stand in a table (`MemoryUnit.map_all_eq_table`).

Crux: a quantity is digits, then letters. No letter is a digit and neither is blank, so nothing is
trimmed and the text is cut where the unit starts (`Quantity.read_written`).
-/

namespace AppRelease

/-! ## Digits and letters -/

/-- The letters by their code points. -/
theorem isAlpha_iff_toNat {c : Char} : c.isAlpha = true ↔
    (65 ≤ c.toNat ∧ c.toNat ≤ 90) ∨ (97 ≤ c.toNat ∧ c.toNat ≤ 122) := by
  have hclasses : c.isAlpha = (decide (c.val ≥ 'A'.val ∧ c.val ≤ 'Z'.val) ||
      (decide (c.val ≥ 'a'.val) && decide (c.val ≤ 'z'.val))) := rfl
  simp only [hclasses, Bool.or_eq_true, Bool.and_eq_true, decide_eq_true_eq]
  exact Iff.rfl

theorem isDigit_eq_false_of_isAlpha {c : Char} (h : c.isAlpha = true) : c.isDigit = false := by
  rw [isAlpha_iff_toNat] at h
  rw [← Bool.not_eq_true, Char.isDigit_iff_toNat]
  simp only [Char.reduceToNat]
  omega

/-- Letters and digits are not blank. -/
theorem Text.isBlank_of_isAlphanum {c : Char} (h : c.isAlphanum = true) : isBlank c = false := by
  rw [Char.isAlphanum, Bool.or_eq_true, isAlpha_iff_toNat, Char.isDigit_iff_toNat] at h
  simp only [Char.reduceToNat] at h
  simp only [isBlank, Bool.or_eq_false_iff, Bool.and_eq_false_iff, decide_eq_false_iff_not,
    beq_eq_false_iff_ne]
  omega

/-- Nothing is trimmed where nothing is blank. -/
theorem Text.trimChars_of_not_blank {cs : List Char} (h : ∀ c ∈ cs, isBlank c = false) :
    trimChars cs = cs := by
  have hstart : cs.dropWhile isBlank = cs := by
    cases cs with
    | nil => rfl
    | cons c rest => rw [List.dropWhile_cons_of_neg (by simp [h c List.mem_cons_self])]
  rw [trimChars, hstart]
  exact dropEndWhile_eq_self fun c hlast => h c (List.mem_of_getLast? hlast)

namespace Quantity

/-- A quantity is cut where its letters start. -/
theorem split?_append {digits letters : List Char} (hne : digits ≠ [])
    (hdigits : ∀ c ∈ digits, c.isDigit = true) (hletters : ∀ c ∈ letters, c.isAlpha = true) :
    split? (digits ++ letters) = some (digits, letters) := by
  have hstart : letters.takeWhile Char.isDigit = [] ∧ letters.dropWhile Char.isDigit = letters := by
    cases letters with
    | nil => exact ⟨rfl, rfl⟩
    | cons c rest =>
      have hc := isDigit_eq_false_of_isAlpha (hletters c List.mem_cons_self)
      simp [hc]
  have htake : (digits ++ letters).takeWhile Char.isDigit = digits := by
    rw [List.takeWhile_append_of_pos hdigits, hstart.1, List.append_nil]
  have hdrop : (digits ++ letters).dropWhile Char.isDigit = letters := by
    rw [List.dropWhile_append_of_pos hdigits, hstart.2]
  simp only [split?, htake, hdrop]
  simpa [hne] using hletters

/-- **What is written is read**: the magnitude and the unit of a text that was put together from
them. -/
theorem read_written (n : UInt64) {unit : String} (hunit : ∀ c ∈ unit.toList, c.isAlpha = true) :
    read (Numeral.decimal n.toNat ++ unit) = .ok (n, unit) := by
  have hdigits : ∀ c ∈ (Numeral.decimal n.toNat).toList, c.isDigit = true :=
    fun _ => Numeral.isDigit_of_mem_decimal
  have htrim : Text.trimChars ((Numeral.decimal n.toNat).toList ++ unit.toList) =
      (Numeral.decimal n.toNat).toList ++ unit.toList := by
    apply Text.trimChars_of_not_blank
    intro c hc
    apply Text.isBlank_of_isAlphanum
    rcases List.mem_append.mp hc with hc | hc
    · simp [Char.isAlphanum, hdigits c hc]
    · simp [Char.isAlphanum, hunit c hc]
  have hbound : n.toNat ≤ UInt64.size - 1 := Nat.le_pred_of_lt n.toNat_lt
  rw [read, String.toList_append, htrim,
    split?_append (Numeral.toList_decimal_ne_nil n.toNat) hdigits hunit]
  simp only [Numeral.readBounded_decimal hbound, UInt64.ofNat_toNat, String.ofList_toList]

end Quantity

/-! ## Memory -/

namespace MemoryUnit

/-- How the units are written and how many bytes they have. A byte is written without letters. The
other units are the first six powers of a thousand and of 1024, each with its letters. -/
def table : List (String × Nat) :=
  ("", 1) ::
    (["k", "M", "G", "T", "P", "E"].mapIdx fun i letters => (letters, Nat.pow 1000 (i + 1))) ++
    ["Ki", "Mi", "Gi", "Ti", "Pi", "Ei"].mapIdx fun i letters => (letters, Nat.pow 1024 (i + 1))

theorem mem_all (u : MemoryUnit) : u ∈ all := by
  cases u <;> decide

/-- **What the thirteen units are**: the entries of the table, in their order. There are no others
(`mem_all`). -/
theorem map_all_eq_table : all.map (fun u => (u.suffix, u.multiplier)) = table := by
  decide

theorem mem_table (u : MemoryUnit) : (u.suffix, u.multiplier) ∈ table := by
  rw [← map_all_eq_table]
  exact List.mem_map_of_mem u.mem_all

theorem isAlpha_of_mem_suffix (u : MemoryUnit) : ∀ c ∈ u.suffix.toList, c.isAlpha = true := by
  have htable : ∀ entry ∈ table, entry.1.toList.all Char.isAlpha = true := by decide
  exact List.all_eq_true.mp (htable _ u.mem_table)

/-- Every unit is found by its suffix. -/
theorem ofSuffix?_suffix (u : MemoryUnit) : ofSuffix? u.suffix = some u := by
  cases u <;> decide

/-- No unit has more bytes than the last one of the table. -/
theorem multiplier_le (u : MemoryUnit) : u.multiplier ≤ Nat.pow 1024 6 := by
  have htable : ∀ entry ∈ table, entry.2 ≤ Nat.pow 1024 6 := by decide
  exact htable _ u.mem_table

end MemoryUnit

namespace Memory

/-- **Memory is read back as it was written.** -/
theorem parse_text (m : Memory) : parse m.text = .ok m := by
  rw [parse, text, Quantity.read_written m.magnitude m.unit.isAlpha_of_mem_suffix]
  simp only [MemoryUnit.ofSuffix?_suffix]

/-- The bytes of an amount as a word of 128 bits. -/
def word (m : Memory) : BitVec 128 :=
  BitVec.ofNat 128 m.magnitude.toNat * BitVec.ofNat 128 m.unit.multiplier

/-- **Words of 128 bits are wide enough** for the bytes of every amount of memory. -/
theorem toNat_word (m : Memory) : m.word.toNat = m.bytes := by
  have hmagnitude : m.magnitude.toNat < 18446744073709551616 := m.magnitude.toNat_lt
  have hmultiplier := m.unit.multiplier_le
  have hbytes : m.magnitude.toNat * m.unit.multiplier < 2 ^ 128 := by
    calc m.magnitude.toNat * m.unit.multiplier
        ≤ 18446744073709551616 * Nat.pow 1024 6 :=
          Nat.mul_le_mul (Nat.le_of_lt hmagnitude) hmultiplier
      _ < 2 ^ 128 := by decide
  rw [word, bytes, BitVec.toNat_mul, BitVec.toNat_ofNat, BitVec.toNat_ofNat, ← Nat.mul_mod,
    Nat.mod_eq_of_lt hbytes]

end Memory

/-! ## Processor time -/

/-- **Processor time is read back as it was written.** -/
theorem Cpu.parse_text (c : Cpu) : parse c.text = .ok c := by
  have hunit : "m".toList.all Char.isAlpha = true := by decide
  rw [parse, text, Quantity.read_written c.millis (List.all_eq_true.mp hunit)]
  rfl

end AppRelease
