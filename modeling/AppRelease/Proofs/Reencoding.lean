import AppRelease.Proofs.Base64
import AppRelease.Proofs.Manifest

/-!
# Secrets keep their base 64 text

Program: a configuration holds secrets in base 64. The object that is made from it holds their
bytes, and these are written in base 64 again.

Specification: `AppConfig.secrets_reencoded_unchanged`. The object is made exactly when every secret
is base 64 as the standard wants it (`Base64.Canonical`), and then every secret is written as the
text that it was held as.

1. **The standard.** `Canonical` speaks of symbols, padding and bits left over, and not of reading
   or writing. `canonical_iff_encode` says that these are the texts that are written.
2. **Reading is strict.** What is read consists of symbols that fill groups of four, with the
   padding at the end (`fills_of_decodeFrom`). So nothing but canonical texts is read.
3. **The crux.** Bits left over have to be zero: otherwise several texts would be read as the same
   bytes, and only one of them is written. `Fills` has them in one condition for all lengths of
   padding.
-/

namespace AppRelease.Base64

/-! ## The standard -/

/-- Values of symbols and a number of padding symbols that fill groups of four. The padding takes up
to two places, and the bits that belong to no byte, two for each of them, are zero. -/
structure Fills (values : List Nat) (padding : Nat) : Prop where
  below : ∀ v ∈ values, v < 64
  short : padding ≤ 2
  full : (values.length + padding) % 4 = 0
  zeros : ∀ v, values.getLast? = some v → v % 4 ^ padding = 0

/-- A text in base 64 as the standard wants it: symbols of the alphabet, then padding. -/
def Canonical (text : String) : Prop :=
  ∃ values padding, text.toList = values.map symbol ++ List.replicate padding '=' ∧
    Fills values padding

variable {values : List Nat} {padding v w x y : Nat}

/-- A full group may stand before others. -/
theorem Fills.group (h : Fills values padding) (hv : v < 64) (hw : w < 64) (hx : x < 64)
    (hy : y < 64) :
    Fills (v :: w :: x :: y :: values) padding where
  below := by
    simp only [List.mem_cons]
    rintro u (rfl | rfl | rfl | rfl | hu)
    · exact hv
    · exact hw
    · exact hx
    · exact hy
    · exact h.below u hu
  short := h.short
  full := by
    have hfull := h.full
    simp only [List.length_cons]
    omega
  zeros := by
    intro u hu
    cases values with
    | nil =>
      have hfull := h.full
      have hshort := h.short
      have hnone : padding = 0 := by
        rw [List.length_nil] at hfull
        omega
      rw [hnone, Nat.pow_zero, Nat.mod_one]
    | cons a rest => exact h.zeros u hu

/-- What follows a full group. -/
theorem Fills.rest (h : Fills (v :: w :: x :: y :: values) padding) : Fills values padding where
  below := fun u hu => h.below u (by simp [hu])
  short := h.short
  full := by
    have hfull := h.full
    simp only [List.length_cons] at hfull
    omega
  zeros := by
    intro u hu
    cases values with
    | nil => exact absurd hu (by simp)
    | cons a rest => exact h.zeros u hu

/-! ## What is written is canonical -/

/-- Bytes are written as symbols that fill groups of four. -/
theorem exists_fills (bytes : List UInt8) :
    ∃ values padding, encodeChars bytes = values.map symbol ++ List.replicate padding '=' ∧
      Fills values padding := by
  induction bytes using encodeChars.induct with
  | case1 => exact ⟨[], 0, rfl, by simp, by simp, by simp, by simp⟩
  | case2 a =>
    have ha := a.toNat_lt
    refine ⟨[a.toNat / 4, a.toNat % 4 * 16], 2, rfl, ?_, by simp, by simp, ?_⟩
    · simp only [List.mem_cons, List.not_mem_nil, or_false]
      rintro u (rfl | rfl) <;> omega
    · intro u hu
      obtain rfl : a.toNat % 4 * 16 = u := by simpa using hu
      omega
  | case3 a b =>
    have ha := a.toNat_lt
    have hb := b.toNat_lt
    refine ⟨[a.toNat / 4, a.toNat % 4 * 16 + b.toNat / 16, b.toNat % 16 * 4], 1, rfl, ?_, by simp,
      by simp, ?_⟩
    · simp only [List.mem_cons, List.not_mem_nil, or_false]
      rintro u (rfl | rfl | rfl) <;> omega
    · intro u hu
      obtain rfl : b.toNat % 16 * 4 = u := by simpa using hu
      omega
  | case4 a b c rest ih =>
    have ha := a.toNat_lt
    have hb := b.toNat_lt
    have hc := c.toNat_lt
    obtain ⟨values, padding, hrest, hfills⟩ := ih
    refine ⟨_, padding, ?_, hfills.group (v := a.toNat / 4) (w := a.toNat % 4 * 16 + b.toNat / 16)
      (x := b.toNat % 16 * 4 + c.toNat / 64) (y := c.toNat % 64) (by omega) (by omega) (by omega)
      (by omega)⟩
    rw [encodeChars, hrest]
    rfl

/-! ## What is canonical is written -/

section Groups

variable (hv : v < 64) (hw : w < 64) (hx : x < 64) (hy : y < 64)

include hv hw in
theorem toNat_firstByte : (firstByte v w).toNat = v * 4 + w / 16 := by
  rw [firstByte, UInt8.toNat_ofNat_of_lt' (by simp only [UInt8.size]; omega)]

include hx in
theorem toNat_secondByte : (secondByte w x).toNat = w % 16 * 16 + x / 4 := by
  rw [secondByte, UInt8.toNat_ofNat_of_lt' (by simp only [UInt8.size]; omega)]

include hy in
theorem toNat_thirdByte : (thirdByte x y).toNat = x % 4 * 64 + y := by
  rw [thirdByte, UInt8.toNat_ofNat_of_lt' (by simp only [UInt8.size]; omega)]

include hv hw in
/-- Two symbols without bits left over are written for one byte. -/
theorem encodeChars_one (hzeros : w % 16 = 0) :
    encodeChars [firstByte v w] = [symbol v, symbol w, '=', '='] := by
  have hhigh : (v * 4 + w / 16) / 4 = v := by omega
  have hlow : (v * 4 + w / 16) % 4 * 16 = w := by omega
  rw [encodeChars, toNat_firstByte hv hw, hhigh, hlow]

include hv hw hx in
/-- Three symbols without bits left over are written for two bytes. -/
theorem encodeChars_two (hzeros : x % 4 = 0) :
    encodeChars [firstByte v w, secondByte w x] = [symbol v, symbol w, symbol x, '='] := by
  have hhigh : (v * 4 + w / 16) / 4 = v := by omega
  have hmiddle : (v * 4 + w / 16) % 4 * 16 + (w % 16 * 16 + x / 4) / 16 = w := by omega
  have hlow : (w % 16 * 16 + x / 4) % 16 * 4 = x := by omega
  rw [encodeChars, toNat_firstByte hv hw, toNat_secondByte hx, hhigh, hmiddle, hlow]

include hv hw hx hy in
/-- Four symbols are written for three bytes. -/
theorem encodeChars_three (rest : List UInt8) :
    encodeChars (firstByte v w :: secondByte w x :: thirdByte x y :: rest) =
      symbol v :: symbol w :: symbol x :: symbol y :: encodeChars rest := by
  have hfirst : (v * 4 + w / 16) / 4 = v := by omega
  have hsecond : (v * 4 + w / 16) % 4 * 16 + (w % 16 * 16 + x / 4) / 16 = w := by omega
  have hthird : (w % 16 * 16 + x / 4) % 16 * 4 + (x % 4 * 64 + y) / 64 = x := by omega
  have hfourth : (x % 4 * 64 + y) % 64 = y := by omega
  rw [encodeChars, toNat_firstByte hv hw, toNat_secondByte hx, toNat_thirdByte hy, hfirst, hsecond,
    hthird, hfourth]

end Groups

/-- **Symbols that fill groups of four are written for some bytes.** -/
theorem exists_encodeChars {padding : Nat} : ∀ {values : List Nat}, Fills values padding →
    ∃ bytes, encodeChars bytes = values.map symbol ++ List.replicate padding '='
  | [], h => by
    have hfull := h.full
    have hshort := h.short
    have hnone : padding = 0 := by
      rw [List.length_nil] at hfull
      omega
    exact ⟨[], by rw [hnone]; rfl⟩
  | [v], h => by
    have hfull := h.full
    have hshort := h.short
    rw [List.length_singleton] at hfull
    omega
  | [v, w], h => by
    have hfull := h.full
    have hshort := h.short
    have htwo : padding = 2 := by
      simp only [List.length_cons, List.length_nil] at hfull
      omega
    have hzeros := h.zeros w rfl
    rw [htwo] at hzeros
    rw [htwo]
    exact ⟨_, encodeChars_one (h.below v (by simp)) (h.below w (by simp)) hzeros⟩
  | [v, w, x], h => by
    have hfull := h.full
    have hshort := h.short
    have hone : padding = 1 := by
      simp only [List.length_cons, List.length_nil] at hfull
      omega
    have hzeros := h.zeros x rfl
    rw [hone] at hzeros
    rw [hone]
    exact ⟨_, encodeChars_two (h.below v (by simp)) (h.below w (by simp)) (h.below x (by simp))
      hzeros⟩
  | v :: w :: x :: y :: values, h => by
    obtain ⟨bytes, hbytes⟩ := exists_encodeChars h.rest
    refine ⟨_, (encodeChars_three (h.below v (by simp)) (h.below w (by simp))
      (h.below x (by simp)) (h.below y (by simp)) bytes).trans ?_⟩
    rw [hbytes]
    rfl

/-- **Canonical texts are those that are written.** -/
theorem canonical_iff_encode {text : String} : Canonical text ↔ ∃ bytes, encode bytes = text := by
  constructor
  · rintro ⟨values, padding, htext, hfills⟩
    obtain ⟨bytes, hbytes⟩ := exists_encodeChars hfills
    exact ⟨bytes, by rw [encode, hbytes, ← htext, String.ofList_toList]⟩
  · rintro ⟨bytes, rfl⟩
    obtain ⟨values, padding, hchars, hfills⟩ := exists_fills bytes
    exact ⟨values, padding, by rw [encode, String.toList_ofList, hchars], hfills⟩

/-! ## What is read is canonical -/

/-- A byte with a value is the symbol of that value. -/
theorem eq_symbolByte_of_value? {byte : UInt8} (h : value? byte = some v) :
    v < 64 ∧ byte = symbolByte v := by
  have hall : ∀ n < 256, ((value? (UInt8.ofNat n)).all fun v =>
      v < 64 && UInt8.ofNat n == symbolByte v) = true := by
    decide +kernel
  have hbyte := hall byte.toNat byte.toNat_lt
  rw [UInt8.ofNat_toNat, h] at hbyte
  simpa using hbyte

theorem readSymbol_eq_ok {offset : Nat} {byte : UInt8} (h : readSymbol offset byte = .ok v) :
    v < 64 ∧ byte = symbolByte v := by
  rw [readSymbol] at h
  split at h
  next hvalue =>
    cases h
    exact eq_symbolByte_of_value? hvalue
  next => exact absurd h (by simp)

theorem throw_ne_ok {fault : Fault} {bytes : List UInt8} :
    (throw fault : Except Fault (List UInt8)) ≠ .ok bytes := nofun

/-- What the reader of the last group gives: the symbols of the group, and the padding that follows
two of them at least. -/
theorem readLast_eq_ok {offset position : Nat} {group : List UInt8} {pairs : List (UInt8 × Nat)}
    (h : readLast offset position group = .ok (pairs, padding)) :
    group = pairs.map (fun pair => symbolByte pair.2) ++ List.replicate padding pad ∧
      (∀ pair ∈ pairs, pair.2 < 64) ∧ (0 < padding → 2 ≤ position + pairs.length) := by
  induction group generalizing position pairs with
  | nil =>
    cases h
    exact ⟨rfl, by simp, by simp⟩
  | cons byte rest ih =>
    rw [readLast] at h
    split at h
    next hpad =>
      split at h
      next => exact absurd h (by simp)
      next hposition =>
        split at h
        next hrest =>
          cases h
          refine ⟨?_, by simp, fun _ => Nat.le_of_not_lt hposition⟩
          rw [hpad, List.map_nil, List.nil_append, List.replicate_succ]
          congr 1
          exact List.eq_replicate_of_mem fun b hb => by simpa using List.all_eq_true.mp hrest b hb
        next => exact absurd h (by simp)
    next =>
      obtain ⟨v, hv, h⟩ := bind_eq_ok_iff.mp h
      obtain ⟨⟨others, found⟩, hothers, h⟩ := bind_eq_ok_iff.mp h
      cases h
      obtain ⟨hbelow, rfl⟩ := readSymbol_eq_ok hv
      obtain ⟨rfl, hall, hpadding⟩ := ih hothers
      refine ⟨rfl, ?_, ?_⟩
      · intro pair hpair
        rcases List.mem_cons.mp hpair with rfl | hpair
        · exact hbelow
        · exact hall pair hpair
      · intro hpos
        have hplace := hpadding hpos
        rw [List.length_cons]
        omega

/-- A group that is not full has the padding that it lacks, and its last symbol has no bits beyond
those of its bytes. -/
theorem padding_of_ok {padding lacking last bits : Nat} {fault other : Fault}
    {found bytes : List UInt8}
    (h : (if padding ≠ lacking then throw fault
      else if last % bits ≠ 0 then throw other
      else return found : Except Fault (List UInt8)) = .ok bytes) :
    padding = lacking ∧ last % bits = 0 := by
  split at h
  next => exact absurd h throw_ne_ok
  next hpadding =>
    split at h
    next => exact absurd h throw_ne_ok
    next hzeros => exact ⟨Decidable.not_not.mp hpadding, Decidable.not_not.mp hzeros⟩

/-- **The last group is full**, with padding or without. -/
theorem fills_of_decodeLast {offset : Nat} {group bytes : List UInt8} (hshort : group.length ≤ 4)
    (h : decodeLast offset group = .ok bytes) :
    ∃ values padding, group = values.map symbolByte ++ List.replicate padding pad ∧
      Fills values padding := by
  rw [decodeLast] at h
  obtain ⟨⟨pairs, padding⟩, hread, h⟩ := bind_eq_ok_iff.mp h
  obtain ⟨hgroup, hbelow, hpadding⟩ := readLast_eq_ok hread
  have hvalues : group = (pairs.map (·.2)).map symbolByte ++ List.replicate padding pad := by
    rw [hgroup, List.map_map]
    rfl
  have hall : ∀ v ∈ pairs.map (·.2), v < 64 := by
    intro v hv
    obtain ⟨pair, hpair, rfl⟩ := List.mem_map.mp hv
    exact hbelow pair hpair
  have hlength : pairs.length + padding ≤ 4 := by
    rw [hgroup] at hshort
    simpa using hshort
  refine ⟨pairs.map (·.2), padding, hvalues, ?_⟩
  rcases pairs with _ | ⟨⟨a, v⟩, _ | ⟨⟨b, w⟩, _ | ⟨⟨c, x⟩, _ | ⟨⟨d, y⟩, rest⟩⟩⟩⟩
  · -- no symbol: padding may not come first
    rw [List.length_nil, Nat.add_zero] at hpadding
    have hnone : padding = 0 := by omega
    subst hnone
    exact ⟨hall, by simp, by simp, by simp⟩
  · exact absurd h throw_ne_ok
  · obtain ⟨rfl, hzeros⟩ := padding_of_ok h
    refine ⟨hall, by simp, by simp, ?_⟩
    intro u hu
    obtain rfl : w = u := by simpa using hu
    exact hzeros
  · obtain ⟨rfl, hzeros⟩ := padding_of_ok h
    refine ⟨hall, by simp, by simp, ?_⟩
    intro u hu
    obtain rfl : x = u := by simpa using hu
    exact hzeros
  · -- four symbols leave no room for more
    simp only [List.length_cons] at hlength
    have hnone : padding = 0 := by omega
    have hrest : rest = [] := List.eq_nil_of_length_eq_zero (by omega)
    subst hnone hrest
    exact ⟨hall, by simp, by simp, by simp [Nat.mod_one]⟩

/-- **Reading is strict**: what is read are symbols and padding that fill groups of four. -/
theorem fills_of_decodeFrom {offset : Nat} {text bytes : List UInt8}
    (h : decodeFrom offset text = .ok bytes) :
    ∃ values padding, text = values.map symbolByte ++ List.replicate padding pad ∧
      Fills values padding := by
  induction offset, text using decodeFrom.induct generalizing bytes with
  | case1 offset a b c d e rest ih =>
    rw [decodeFrom] at h
    obtain ⟨group, hgroup, h⟩ := bind_eq_ok_iff.mp h
    obtain ⟨others, hothers, -⟩ := bind_eq_ok_iff.mp h
    obtain ⟨v, hv, hgroup⟩ := bind_eq_ok_iff.mp hgroup
    obtain ⟨w, hw, hgroup⟩ := bind_eq_ok_iff.mp hgroup
    obtain ⟨x, hx, hgroup⟩ := bind_eq_ok_iff.mp hgroup
    obtain ⟨y, hy, -⟩ := bind_eq_ok_iff.mp hgroup
    obtain ⟨hv, ha⟩ := readSymbol_eq_ok hv
    obtain ⟨hw, hb⟩ := readSymbol_eq_ok hw
    obtain ⟨hx, hc⟩ := readSymbol_eq_ok hx
    obtain ⟨hy, hd⟩ := readSymbol_eq_ok hy
    obtain ⟨values, padding, hrest, hfills⟩ := ih hothers
    refine ⟨_, padding, ?_, hfills.group hv hw hx hy⟩
    rw [hrest, ha, hb, hc, hd]
    rfl
  | case2 offset group hlast =>
    rw [decodeFrom] at h
    · refine fills_of_decodeLast ?_ h
      rcases group with _ | ⟨a, _ | ⟨b, _ | ⟨c, _ | ⟨d, _ | ⟨e, rest⟩⟩⟩⟩⟩
      case cons.cons.cons.cons.cons => exact (hlast a b c d e rest rfl).elim
      all_goals simp
    · exact hlast

/-- Symbols and padding as bytes are those of one text. -/
theorem bytesOf_symbols (hbelow : ∀ v ∈ values, v < 64) (padding : Nat) :
    Text.bytesOf (String.ofList (values.map symbol ++ List.replicate padding '=')) =
      values.map symbolByte ++ List.replicate padding pad := by
  have hsymbols : (values.map symbol).flatMap String.utf8EncodeChar = values.map symbolByte := by
    induction values with
    | nil => rfl
    | cons v rest ih =>
      rw [List.map_cons, List.map_cons, List.flatMap_cons,
        utf8_symbol v (hbelow v List.mem_cons_self), ih fun u hu =>
          hbelow u (List.mem_cons_of_mem _ hu)]
      rfl
  have hpadding : (List.replicate padding '=').flatMap String.utf8EncodeChar =
      List.replicate padding pad := by
    have hpad : String.utf8EncodeChar '=' = [pad] := by decide
    induction padding with
    | zero => rfl
    | succ n ih =>
      rw [List.replicate_succ, List.replicate_succ, List.flatMap_cons, ih, hpad]
      rfl
  rw [bytesOf_ofList, List.flatMap_append, hsymbols, hpadding]

/-- **What is read is what is written.** -/
theorem decode_eq_ok_iff {text : String} {bytes : List UInt8} : decode text = .ok bytes ↔
    encode bytes = text := by
  constructor
  · intro h
    have hfrom : decodeFrom 0 (Text.bytesOf text) = .ok bytes := by
      rw [decode, decodeBytes] at h
      split at h
      next => exact absurd h (by simp)
      next => exact h
    obtain ⟨values, padding, htext, hfills⟩ := fills_of_decodeFrom hfrom
    rw [← bytesOf_symbols hfills.below, ← Text.textOf?_eq_some_iff, Text.textOf?_bytesOf,
      Option.some.injEq] at htext
    -- a canonical text is written for some bytes, and these are the ones that are read
    have hcanonical : Canonical text :=
      ⟨values, padding, by rw [htext, String.toList_ofList], hfills⟩
    obtain ⟨written, hwritten⟩ := canonical_iff_encode.mp hcanonical
    rw [← hwritten, decode_encode, Except.ok.injEq] at h
    rw [← h, hwritten]
  · rintro rfl
    exact decode_encode bytes

end AppRelease.Base64

namespace AppRelease

theorem Secrets.decode_eq_ok_iff {encoded : String} {bytes : List UInt8} :
    decode encoded = .ok bytes ↔ Base64.encode bytes = encoded := by
  rw [decode, ← Base64.decode_eq_ok_iff]
  cases Base64.decode encoded <;> simp

namespace AppConfig

variable {c : AppConfig}

/-- The secrets can be decoded exactly when they are canonical. -/
theorem secretsReadable_iff : c.SecretsReadable ↔
    ∀ name encoded, c.settings.get? name = some (.secret encoded) → Base64.Canonical encoded := by
  simp only [SecretsReadable, Secrets.decode_eq_ok_iff, Base64.canonical_iff_encode]

/-- **The bytes of the secrets are written as the texts that they come from.** -/
theorem mapValues_secretData (h : c.SecretsReadable) :
    (c.secretData.mapValues fun _ bytes => Base64.encode bytes) = c.secretVariables := by
  apply Dict.ext_get?
  intro name
  apply Option.ext
  intro encoded
  rw [Dict.get?_mapValues, Option.map_eq_some_iff, get?_secretVariables]
  simp only [get?_secretData, Secrets.decode_eq_ok_iff]
  constructor
  · rintro ⟨bytes, ⟨held, hheld, hbytes⟩, rfl⟩
    rw [hheld, hbytes]
  · intro hheld
    obtain ⟨bytes, hbytes⟩ := h name encoded hheld
    rw [Secrets.decode_eq_ok_iff] at hbytes
    exact ⟨bytes, ⟨encoded, hheld, hbytes⟩, hbytes⟩

/-- **Secrets are written as they are held.** The object that holds the secrets is made exactly when
all of them are canonical. The texts in its document are then those of the configuration, name by
name. Both are so because a text that is read is the one that its bytes are written as. -/
theorem secrets_reencoded_unchanged (c : AppConfig) (e : Environment) :
    ((∃ o, c.secretObject e = .ok o) ↔
      ∀ name encoded, c.settings.get? name = some (.secret encoded) → Base64.Canonical encoded) ∧
    (∀ o, c.secretObject e = .ok o → ∃ written : Dict String,
      (Manifest.secret o).toDocument =
        .record [("apiVersion", .text "v1"), ("kind", .text "Secret"),
          ("data", .record (written.entries.map fun entry => (entry.1, .text entry.2))),
        ("metadata", o.metadata.toDocument), ("type", .text "Opaque")] ∧
      ∀ name encoded, written.get? name = some encoded ↔
        c.settings.get? name = some (.secret encoded)) ∧
    (∀ s bytes, Secrets.decode s = .ok bytes ↔ Base64.encode bytes = s) ∧
    ∀ s, (∃ bytes, Secrets.decode s = .ok bytes) ↔ Base64.Canonical s := by
  refine ⟨?_, ?_, fun s bytes => Secrets.decode_eq_ok_iff, ?_⟩
  · rw [← secretsReadable_iff]
    constructor
    · rintro ⟨o, ho⟩
      exact (secretObject_eq_ok_iff.mp ho).1
    · intro h
      exact ⟨_, secretObject_eq_ok_iff.mpr ⟨h, rfl⟩⟩
  · intro o ho
    obtain ⟨hreadable, rfl⟩ := secretObject_eq_ok_iff.mp ho
    refine ⟨c.secretVariables, ?_, fun name encoded => get?_secretVariables⟩
    rw [← mapValues_secretData hreadable]
    rfl
  · intro s
    simp only [Secrets.decode_eq_ok_iff, Base64.canonical_iff_encode]

end AppConfig

end AppRelease
