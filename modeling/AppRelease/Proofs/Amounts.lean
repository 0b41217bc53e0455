import AppRelease.Proofs.Dotenv
import AppRelease.Proofs.Quantities
import AppRelease.Proofs.Spelling
import AppRelease.QuantityJson

/-!
# Which texts state a quantity

Program: `Memory.parse` and `Cpu.parse` read a quantity from a text, `Memory.ofJson` and
`Cpu.ofJson` from a JSON text.

Specification: `Memory.read_from_exactly_its_texts` and `Cpu.cores_and_thousandths_read_exactly`. A
text is read exactly when it states a number of 64 bits in a unit, digits first and then the unit
(`Quantity.States`), and it is read as that number in that unit. Whole cores count a thousand times,
and that many thousandths have to fit in 64 bits as well.

1. **Cutting.** Letters are no digits, so a text of digits and letters is cut in one place
   (`split?_eq_some_iff`), and what is read is the number before it and the unit after it
   (`read_eq_ok_iff`).
2. **Units.** No two units of memory are written in the same way, so the unit is the only one with
   its suffix.
3. **The crux.** A number of 64 bits times a thousand wraps around. It is checked before that, on
   the number that the digits stand for, so what is accepted is never a remainder
   (`toNat_thousandths`).
-/

namespace AppRelease

/-! ## Numbers and units -/

namespace Quantity

/-- A text that states a number in a unit: digits, then the unit, and any blanks around them. -/
def States (text : String) (n : Nat) (unit : String) : Prop :=
  ∃ digits, Text.Trims text.toList (digits ++ unit.toList) ∧ digits ≠ [] ∧
    (∀ c ∈ digits, c.isDigit = true) ∧
    Nat.ofDigitChars 10 digits 0 = n

variable {text unit : String} {n : Nat}

/-- A text states one number in a unit. -/
theorem States.unique {m : Nat} (h : States text n unit) (h' : States text m unit) : n = m := by
  obtain ⟨digits, htrim, -, -, rfl⟩ := h
  obtain ⟨digits', htrim', -, -, rfl⟩ := h'
  have hsame := (Text.trims_iff.mp htrim).symm.trans (Text.trims_iff.mp htrim')
  rw [List.append_cancel_right hsame]

/-- **Where a quantity is cut**: between digits and letters. -/
theorem split?_eq_some_iff {cs digits letters : List Char} : split? cs = some (digits, letters) ↔
    cs = digits ++ letters ∧ digits ≠ [] ∧ (∀ c ∈ digits, c.isDigit = true) ∧
      ∀ c ∈ letters, c.isAlpha = true := by
  constructor
  · intro h
    rw [split?] at h
    split at h
    next => exact absurd h (by simp)
    next hparts =>
      obtain ⟨rfl, rfl⟩ := Prod.mk.inj (Option.some.inj h)
      simp only [Bool.or_eq_true, List.isEmpty_iff, Bool.not_eq_true', not_or,
        Bool.not_eq_false] at hparts
      refine ⟨List.takeWhile_append_dropWhile.symm, hparts.1, ?_, List.all_eq_true.mp hparts.2⟩
      exact List.all_eq_true.mp List.all_takeWhile
  · rintro ⟨rfl, hne, hdigits, hletters⟩
    exact split?_append hne hdigits hletters

/-- **What is read**: the number and the unit that a text states. -/
theorem read_eq_ok_iff {m : UInt64} : read text = .ok (m, unit) ↔
    States text m.toNat unit ∧ ∀ c ∈ unit.toList, c.isAlpha = true := by
  have hnumber : ∀ {digits : List Char}, digits ≠ [] →
      (∀ c ∈ digits, c.isDigit = true) → ∀ {n : Nat},
      Numeral.readBounded (UInt64.size - 1) digits = .ok n ↔
        n = Nat.ofDigitChars 10 digits 0 ∧ n ≤ UInt64.size - 1 := by
    intro digits hne hdigits n
    rw [Numeral.readBounded_of_digits hne hdigits, Numeral.readDigits_eq_ok_iff (Nat.zero_le _)]
    exact and_iff_right hdigits
  constructor
  · intro h
    rw [read] at h
    cases hsplit : split? (Text.trimChars text.toList) with
    | none => simp [hsplit] at h
    | some parts =>
      obtain ⟨digits, letters⟩ := parts
      obtain ⟨htrim, hne, hdigits, hletters⟩ := split?_eq_some_iff.mp hsplit
      cases hread : Numeral.readBounded (UInt64.size - 1) digits with
      | error cause =>
        simp only [hsplit, hread] at h
        exact absurd h (by simp)
      | ok n =>
        simp only [hsplit, hread, Except.ok.injEq, Prod.mk.injEq] at h
        obtain ⟨rfl, rfl⟩ := h
        obtain ⟨hvalue, hbound⟩ := (hnumber hne hdigits).mp hread
        have hsize : n < UInt64.size := Nat.lt_of_le_pred (by decide) hbound
        rw [UInt64.toNat_ofNat_of_lt' hsize, String.toList_ofList]
        refine ⟨⟨digits, ?_, hne, hdigits, hvalue.symm⟩, hletters⟩
        rw [String.toList_ofList]
        exact Text.trims_iff.mpr htrim
  · rintro ⟨⟨digits, htrim, hne, hdigits, hvalue⟩, hletters⟩
    have hsplit := split?_eq_some_iff.mpr ⟨Text.trims_iff.mp htrim, hne, hdigits, hletters⟩
    have hread := (hnumber hne hdigits).mpr ⟨hvalue.symm, Nat.le_pred_of_lt m.toNat_lt⟩
    simp only [read, hsplit, hread, UInt64.ofNat_toNat, String.ofList_toList]

/-- A number of 64 bits in a unit of letters is read. -/
theorem read_of_states (h : States text n unit) (hn : n < UInt64.size)
    (hunit : ∀ c ∈ unit.toList, c.isAlpha = true) :
    read text = .ok (UInt64.ofNat n, unit) := by
  rw [read_eq_ok_iff, UInt64.toNat_ofNat_of_lt' hn]
  exact ⟨h, hunit⟩

/-- What is written states the number. -/
theorem states_written (n : Nat) {unit : String} (hunit : ∀ c ∈ unit.toList, c.isAlpha = true) :
    States (Numeral.decimal n ++ unit) n unit := by
  refine ⟨(Numeral.decimal n).toList, ?_, Numeral.toList_decimal_ne_nil n,
    fun _ => Numeral.isDigit_of_mem_decimal, ?_⟩
  · rw [String.toList_append, Text.trims_iff]
    apply Text.trimChars_of_not_blank
    intro c hc
    apply Text.isBlank_of_isAlphanum
    rcases List.mem_append.mp hc with hc | hc
    · simp [Char.isAlphanum, Numeral.isDigit_of_mem_decimal hc]
    · simp [Char.isAlphanum, hunit c hc]
  · rw [Numeral.decimal, String.toList_ofList, Nat.ofDigitChars_ten_toDigits]

/-- What is wrong with a text quotes the text as it was given. -/
def Fault.Quotes (fault : Fault) (text : String) : Prop :=
  ∃ reason, fault.message = "'" ++ text ++ "'" ++ reason

theorem Fault.quotes_malformed (text : String) : (malformed text).Quotes text := by
  refine ⟨" is not a quantity", String.toList_inj.mp ?_⟩
  simp [message, ToString.toString]

theorem Fault.quotes_number (text : String) (cause : Numeral.Fault) :
    (number text cause).Quotes text := by
  refine ⟨": " ++ cause.message, String.toList_inj.mp ?_⟩
  simp [message, ToString.toString]

theorem Fault.quotes_unknownMemoryUnit (text unit : String) :
    (unknownMemoryUnit text unit).Quotes text := by
  refine ⟨" has unknown memory unit '" ++ unit ++
    "' (expected one of k, M, G, T, P, E, Ki, Mi, Gi, Ti, Pi, Ei)", String.toList_inj.mp ?_⟩
  simp [message, ToString.toString]

theorem quotes_of_read {fault : Fault} (h : read text = .error fault) : fault.Quotes text := by
  rw [read] at h
  split at h
  next =>
    cases h
    exact Fault.quotes_malformed text
  next =>
    split at h
    next cause _ =>
      cases h
      exact Fault.quotes_number text cause
    next => exact absurd h (by simp)

end Quantity

/-! ## JSON -/

/-- A quantity is read from a JSON text however the text is written. -/
theorem readQuantityJson_of_spells {α : Type} {parse : String → Except Quantity.Fault α}
    {s json : String} {quantity : α} (hspells : Json.SpellsText s json.toList)
    (hparse : parse s = .ok quantity) :
    readQuantityJson parse json = .ok quantity := by
  obtain ⟨tail, htail⟩ := hspells.head
  obtain ⟨p, hskip⟩ := Json.skipSpace_before (c := '"') Json.isSpace_nil (by decide) tail ⟨1, 0⟩
  obtain ⟨q, hread⟩ := Json.readText_of_spells hspells [] p
  have hdocument : Json.readTextDocument json = .ok (s, ⟨[], q⟩) := by
    rw [htail, List.cons_append, List.append_nil] at hread
    simp only [List.nil_append] at hskip
    simp only [Json.readTextDocument, Json.Cursor.start, htail, hskip, hread]
  simp only [readQuantityJson, hdocument, hparse, Json.expectEnd_of_isSpace _ Json.isSpace_nil]

/-! ## Memory -/

namespace Memory

/-- **Which texts are read as which memory.** -/
theorem parse_eq_ok_iff {s : String} {m : Memory} :
    parse s = .ok m ↔ Quantity.States s m.magnitude.toNat m.unit.suffix := by
  constructor
  · intro h
    rw [parse] at h
    split at h
    next => exact absurd h (by simp)
    next magnitude unit hread =>
      split at h
      next u hu =>
        cases h
        have hsuffix : u.suffix = unit := by simpa using List.find?_some hu
        rw [hsuffix]
        exact (Quantity.read_eq_ok_iff.mp hread).1
      next => exact absurd h (by simp)
  · intro h
    have hread := Quantity.read_eq_ok_iff.mpr ⟨h, m.unit.isAlpha_of_mem_suffix⟩
    simp only [parse, hread, MemoryUnit.ofSuffix?_suffix]

theorem quotes_of_parse {s : String} {fault : Quantity.Fault} (h : parse s = .error fault) :
    fault.Quotes s := by
  rw [parse] at h
  split at h
  next fault' hread =>
    cases h
    exact Quantity.quotes_of_read hread
  next =>
    split at h
    next => exact absurd h (by simp)
    next =>
      cases h
      exact Quantity.Fault.quotes_unknownMemoryUnit s _

theorem ofJson_toJson (m : Memory) : ofJson m.toJson = .ok m :=
  readQuantityJson_of_spells (Json.spellsText_writeText m.text) m.parse_text

/-- **Memory is read from exactly the texts that state it.** A text that states no number of 64 bits
in a unit of memory is an error that quotes it. What is written is read back, also as JSON, and is
the same however the memory was stated. -/
theorem read_from_exactly_its_texts :
    (∀ s m, parse s = .ok m ↔ Quantity.States s m.magnitude.toNat m.unit.suffix) ∧
    (∀ s, (∃ m, parse s = .ok m) ↔
      ∃ n unit, n < UInt64.size ∧ Quantity.States s n (MemoryUnit.suffix unit)) ∧
    (∀ s, (∃ fault, parse s = .error fault ∧ fault.Quotes s) ↔
      ¬ ∃ n unit, n < UInt64.size ∧ Quantity.States s n (MemoryUnit.suffix unit)) ∧
    (∀ m : Memory, parse m.text = .ok m ∧ ofJson m.toJson = .ok m) ∧
    ∀ s m, parse s = .ok m →
      ∃ again, parse m.text = .ok again ∧ again = m ∧ again.text = m.text := by
  have haccepts : ∀ s, (∃ m, parse s = .ok m) ↔
      ∃ n unit, n < UInt64.size ∧ Quantity.States s n (MemoryUnit.suffix unit) := by
    intro s
    constructor
    · rintro ⟨m, hparse⟩
      exact ⟨m.magnitude.toNat, m.unit, m.magnitude.toNat_lt, parse_eq_ok_iff.mp hparse⟩
    · rintro ⟨n, unit, hn, hstates⟩
      refine ⟨⟨UInt64.ofNat n, unit⟩, parse_eq_ok_iff.mpr ?_⟩
      rwa [UInt64.toNat_ofNat_of_lt' hn]
  refine ⟨fun s m => parse_eq_ok_iff, haccepts, ?_, fun m => ⟨m.parse_text, m.ofJson_toJson⟩, ?_⟩
  · intro s
    rw [← haccepts]
    cases hparse : parse s with
    | ok m => simp
    | error fault => simp [quotes_of_parse hparse]
  · intro s m _
    exact ⟨m, m.parse_text, rfl, rfl⟩

example : parse " 070Mi\n" = .ok ⟨70, .mebi⟩ := by cbv

end Memory

/-! ## Processor time -/

namespace Cpu

theorem isAlpha_of_mem_milli : ∀ c ∈ "m".toList, c.isAlpha = true := by
  have hall : "m".toList.all Char.isAlpha = true := by decide
  exact List.all_eq_true.mp hall

theorem isAlpha_of_mem_empty : ∀ c ∈ "".toList, c.isAlpha = true := by simp

/-- Thousandths that fit in 64 bits do not wrap around. -/
theorem toNat_thousandths {cores : UInt64} (h : cores.toNat * 1000 < UInt64.size) :
    (cores * 1000).toNat = 1000 * cores.toNat := by
  have hmul : (cores * 1000).toNat = cores.toNat * 1000 % UInt64.size := UInt64.toNat_mul cores 1000
  rw [hmul, Nat.mod_eq_of_lt h, Nat.mul_comm]

/-- **Which texts are read as which processor time.** -/
theorem parse_eq_ok_iff {s : String} {c : Cpu} : parse s = .ok c ↔
    Quantity.States s c.millis.toNat "m" ∨
      ∃ n, Quantity.States s n "" ∧ c.millis.toNat = 1000 * n := by
  constructor
  · intro h
    rw [parse] at h
    split at h
    next => exact absurd h (by simp)
    next magnitude unit hread =>
      obtain ⟨hstates, -⟩ := Quantity.read_eq_ok_iff.mp hread
      split at h
      next hunit =>
        cases h
        exact .inl (hunit ▸ hstates)
      next =>
        split at h
        next hunit =>
          split at h
          next hsmall =>
            cases h
            exact .inr ⟨magnitude.toNat, hunit ▸ hstates, toNat_thousandths hsmall⟩
          next => exact absurd h (by simp)
        next => exact absurd h (by simp)
  · rintro (hstates | ⟨n, hstates, hmillis⟩)
    · have hread := Quantity.read_eq_ok_iff.mpr ⟨hstates, isAlpha_of_mem_milli⟩
      simp only [parse, hread, ↓reduceIte]
    · have hlt : c.millis.toNat < UInt64.size := c.millis.toNat_lt
      have hn : n < UInt64.size := by omega
      have hread := Quantity.read_of_states hstates hn isAlpha_of_mem_empty
      have hsmall : (UInt64.ofNat n).toNat * 1000 < UInt64.size := by
        rw [UInt64.toNat_ofNat_of_lt' hn]
        omega
      have hword : UInt64.ofNat n * 1000 = c.millis := by
        rw [← UInt64.toNat_inj, toNat_thousandths hsmall, UInt64.toNat_ofNat_of_lt' hn, hmillis]
      have hother : ¬ "" = "m" := by decide
      simp only [parse, hread, if_neg hother, if_pos hsmall, hword, ↓reduceIte]

theorem ofJson_toJson (c : Cpu) : ofJson c.toJson = .ok c :=
  readQuantityJson_of_spells (Json.spellsText_writeText c.text) c.parse_text

/-- No text states both a number of cores and a number of thousandths. -/
theorem not_cores_and_millis {s : String} {n m : Nat} (hcores : Quantity.States s n "")
    (hmillis : Quantity.States s m "m") :
    False := by
  obtain ⟨digits, htrim, -, hdigits, -⟩ := hcores
  obtain ⟨digits', htrim', -, -, -⟩ := hmillis
  have hsame : digits ++ "".toList = digits' ++ "m".toList :=
    (Text.trims_iff.mp htrim).symm.trans (Text.trims_iff.mp htrim')
  have hm : 'm' ∈ digits := by
    rw [String.toList_empty, List.append_nil] at hsame
    rw [hsame]
    simp
  exact absurd (hdigits 'm' hm) (by decide)

/-- **Whole cores are a thousand thousandths each**, however both are written. -/
theorem parse_cores_iff {whole thousandths : String} {n : Nat} (hwhole : Quantity.States whole n "")
    (hthousandths : Quantity.States thousandths (1000 * n) "m") {c : Cpu} :
    parse whole = .ok c ↔ parse thousandths = .ok c := by
  rw [parse_eq_ok_iff, parse_eq_ok_iff]
  constructor
  · rintro (hmillis | ⟨m, hcores, hvalue⟩)
    · exact (not_cores_and_millis hwhole hmillis).elim
    · rw [hcores.unique hwhole] at hvalue
      exact .inl (hvalue ▸ hthousandths)
  · rintro (hmillis | ⟨m, hcores, -⟩)
    · exact .inr ⟨n, hwhole, hmillis.unique hthousandths⟩
    · exact (not_cores_and_millis hcores hthousandths).elim

/-- **Processor time is read from exactly the texts that state it**: a number of thousandths that
fits in 64 bits, or a number of cores whose thousandths do, and then it is exactly that many. What
is written is read back, also as JSON. Cores are read as their thousandths are, and neither is
accepted without the other. -/
theorem cores_and_thousandths_read_exactly :
    (∀ s c, parse s = .ok c ↔
      Quantity.States s c.millis.toNat "m" ∨
        ∃ n, Quantity.States s n "" ∧ c.millis.toNat = 1000 * n) ∧
    (∀ s, (∃ c, parse s = .ok c) ↔
      (∃ n, n < UInt64.size ∧ Quantity.States s n "m") ∨
        ∃ n, 1000 * n < UInt64.size ∧ Quantity.States s n "") ∧
    (∀ c : Cpu, parse c.text = .ok c ∧ ofJson c.toJson = .ok c) ∧
    (∀ n whole thousandths, Quantity.States whole n "" →
      Quantity.States thousandths (1000 * n) "m" →
      ∀ c, parse whole = .ok c ↔ parse thousandths = .ok c) ∧
    ∀ n c, parse (Numeral.decimal n) = .ok c ↔
      parse (Numeral.decimal (1000 * n) ++ "m") = .ok c := by
  refine ⟨fun s c => parse_eq_ok_iff, ?_, fun c => ⟨c.parse_text, c.ofJson_toJson⟩,
    fun n whole thousandths hwhole hthousandths c => parse_cores_iff hwhole hthousandths, ?_⟩
  · intro s
    constructor
    · rintro ⟨c, hparse⟩
      rcases parse_eq_ok_iff.mp hparse with hmillis | ⟨n, hcores, hvalue⟩
      · exact .inl ⟨c.millis.toNat, c.millis.toNat_lt, hmillis⟩
      · exact .inr ⟨n, hvalue ▸ c.millis.toNat_lt, hcores⟩
    · rintro (⟨n, hn, hmillis⟩ | ⟨n, hn, hcores⟩)
      · refine ⟨⟨UInt64.ofNat n⟩, parse_eq_ok_iff.mpr (.inl ?_)⟩
        rwa [UInt64.toNat_ofNat_of_lt' hn]
      · exact ⟨⟨UInt64.ofNat (1000 * n)⟩,
          parse_eq_ok_iff.mpr (.inr ⟨n, hcores, UInt64.toNat_ofNat_of_lt' hn⟩)⟩
  · intro n c
    have hwhole : Quantity.States (Numeral.decimal n) n "" := by
      have hwritten := Quantity.states_written n isAlpha_of_mem_empty
      rwa [String.append_empty] at hwritten
    exact parse_cores_iff hwhole (Quantity.states_written (1000 * n) isAlpha_of_mem_milli)

end Cpu

end AppRelease
