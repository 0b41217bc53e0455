import AppRelease.Base64
import Mathlib.Algebra.Ring.Nat

/-!
# Base 64 is written by its rule and reads back

Specification: `standard` is base 64 by its rule. The binary digits of all bytes stand in a row,
every six of them are a symbol, and padding fills up the last four symbols. `encode_eq_standard`
says that this is what is written, and `decode_encode` that reading it gives the bytes that were
written, for every list of bytes. So a value that is kept in base 64 loses nothing, and reading it
again cannot fail.

1. **Texts as bytes.** The reader works on bytes and the writer makes characters. Every symbol is
   one byte long (`utf8_symbol`), so the written text is the list of its symbols' bytes
   (`bytesOf_encode`).
2. **Groups.** Three bytes are cut into four values of six bits and put together again
   (`firstByte_cut`, `secondByte_cut`, `thirdByte_cut`). A last group of one or two bytes is the
   same with zeros for the bytes that are not there.
3. **The crux (`decodeFrom_encoded`).** One induction along the writer's own recursion, for every
   offset. The reader treats the group that ends the text apart, the writer does not, so the group
   lemma `decodeFrom_group` covers both kinds of full group.
4. **The rule.** It knows no groups. The step is one symbol (`sextets_carry`): a byte gives its
   first digits to what is carried over, and the digits that are left are carried over to the next
   byte.
-/

namespace AppRelease.Base64

/-! ## Texts as bytes -/

/-- The bytes of a text, character by character. -/
theorem bytesOf_ofList (cs : List Char) :
    Text.bytesOf (String.ofList cs) = cs.flatMap String.utf8EncodeChar := by
  rw [Text.bytesOf, String.toUTF8_eq_toByteArray, String.toByteArray_ofList, List.utf8Encode,
    List.toList_data_toByteArray]

/-- The symbol of a value below 64, as a byte. -/
def symbolByte (value : Nat) : UInt8 := (symbol value).toUInt8

/-- A symbol is one byte long. -/
theorem utf8_symbol : ∀ v < 64, String.utf8EncodeChar (symbol v) = [symbolByte v] := by
  decide +kernel

/-- The value of a symbol is the one it was written for. -/
theorem value?_symbolByte : ∀ v < 64, value? (symbolByte v) = some v := by
  decide +kernel

/-- No symbol is the padding. -/
theorem symbolByte_ne_pad {v : Nat} (hv : v < 64) : symbolByte v ≠ pad := by
  intro h
  have hval := value?_symbolByte v hv
  rw [h, show value? pad = none from rfl] at hval
  exact absurd hval (by simp)

/-- The written bytes, three at a time: the shape of `encodeChars` with bytes in place of
characters. -/
def encodedBytes : List UInt8 → List UInt8
  | [] => []
  | [a] => [symbolByte (a.toNat / 4), symbolByte (a.toNat % 4 * 16), pad, pad]
  | [a, b] =>
    [symbolByte (a.toNat / 4), symbolByte (a.toNat % 4 * 16 + b.toNat / 16),
      symbolByte (b.toNat % 16 * 4), pad]
  | a :: b :: c :: rest =>
    symbolByte (a.toNat / 4) :: symbolByte (a.toNat % 4 * 16 + b.toNat / 16) ::
      symbolByte (b.toNat % 16 * 4 + c.toNat / 64) :: symbolByte (c.toNat % 64) ::
      encodedBytes rest

theorem utf8_encodeChars (bytes : List UInt8) :
    (encodeChars bytes).flatMap String.utf8EncodeChar = encodedBytes bytes := by
  have hpad : String.utf8EncodeChar '=' = [pad] := by decide
  induction bytes using encodeChars.induct with
  | case1 => rfl
  | case2 a =>
    have ha := a.toNat_lt
    simp only [encodeChars, encodedBytes, List.flatMap_cons, List.flatMap_nil, hpad]
    rw [utf8_symbol _ (by omega), utf8_symbol _ (by omega)]
    rfl
  | case3 a b =>
    have ha := a.toNat_lt
    have hb := b.toNat_lt
    simp only [encodeChars, encodedBytes, List.flatMap_cons, List.flatMap_nil, hpad]
    rw [utf8_symbol _ (by omega), utf8_symbol _ (by omega), utf8_symbol _ (by omega)]
    rfl
  | case4 a b c rest ih =>
    have ha := a.toNat_lt
    have hb := b.toNat_lt
    have hc := c.toNat_lt
    simp only [encodeChars, encodedBytes, List.flatMap_cons]
    rw [utf8_symbol _ (by omega), utf8_symbol _ (by omega), utf8_symbol _ (by omega),
      utf8_symbol _ (by omega), ih]
    rfl

/-- **What is written, as bytes.** -/
theorem bytesOf_encode (bytes : List UInt8) : Text.bytesOf (encode bytes) = encodedBytes bytes := by
  rw [encode, bytesOf_ofList, utf8_encodeChars]

/-- What is written fills its last group of four. -/
theorem length_encodedBytes (bytes : List UInt8) : (encodedBytes bytes).length % 4 = 0 := by
  induction bytes using encodedBytes.induct with
  | case1 => rfl
  | case2 a => simp [encodedBytes]
  | case3 a b => simp [encodedBytes]
  | case4 a b c rest ih =>
    simp only [encodedBytes, List.length_cons]
    omega

/-! ## Groups -/

/-- The first byte of a group, from the values it was cut into. -/
theorem firstByte_cut (a : UInt8) {low : Nat} (hlow : low < 16) :
    firstByte (a.toNat / 4) (a.toNat % 4 * 16 + low) = a := by
  have hsum : a.toNat / 4 * 4 + (a.toNat % 4 * 16 + low) / 16 = a.toNat := by omega
  rw [firstByte, hsum, UInt8.ofNat_toNat]

/-- The second byte of a group, from the values it was cut into. -/
theorem secondByte_cut (high : Nat) (b : UInt8) {low : Nat} (hlow : low < 4) :
    secondByte (high * 16 + b.toNat / 16) (b.toNat % 16 * 4 + low) = b := by
  have hb := b.toNat_lt
  have hsum : (high * 16 + b.toNat / 16) % 16 * 16 + (b.toNat % 16 * 4 + low) / 4 = b.toNat := by
    omega
  rw [secondByte, hsum, UInt8.ofNat_toNat]

/-- The third byte of a group, from the values it was cut into. -/
theorem thirdByte_cut (high : Nat) (c : UInt8) :
    thirdByte (high * 4 + c.toNat / 64) (c.toNat % 64) = c := by
  have hc := c.toNat_lt
  have hsum : (high * 4 + c.toNat / 64) % 4 * 64 + c.toNat % 64 = c.toNat := by omega
  rw [thirdByte, hsum, UInt8.ofNat_toNat]

/-- A symbol is read as its value. -/
theorem readSymbol_symbolByte (offset : Nat) {v : Nat} (hv : v < 64) :
    readSymbol offset (symbolByte v) = .ok v := by
  rw [readSymbol, value?_symbolByte v hv]

/-- The reader of the last group takes a symbol and goes on. -/
theorem readLast_symbolByte (offset position : Nat) {v : Nat} (hv : v < 64) (rest : List UInt8) :
    readLast offset position (symbolByte v :: rest) =
      (readLast offset (position + 1) rest).map fun r => ((symbolByte v, v) :: r.1, r.2) := by
  rw [readLast, if_neg (symbolByte_ne_pad hv), readSymbol_symbolByte _ hv]
  cases readLast offset (position + 1) rest <;> rfl

/-- **A full group**, whether the text ends with it or not: three bytes, then what the rest
holds. -/
theorem decodeFrom_group {offset v w x y : Nat} {tail others : List UInt8} (hv : v < 64)
    (hw : w < 64) (hx : x < 64) (hy : y < 64) (htail : decodeFrom (offset + 4) tail = .ok others) :
    decodeFrom offset (symbolByte v :: symbolByte w :: symbolByte x :: symbolByte y :: tail) =
      .ok (firstByte v w :: secondByte w x :: thirdByte x y :: others) := by
  cases tail with
  | nil =>
    -- the text ends here: nothing is left over, so the four symbols are all there is
    have hempty : decodeFrom (offset + 4) [] = .ok [] := rfl
    have hothers : others = [] := by simpa [hempty] using htail.symm
    subst hothers
    have hread : readLast offset 0 [symbolByte v, symbolByte w, symbolByte x, symbolByte y] =
        .ok ([(symbolByte v, v), (symbolByte w, w), (symbolByte x, x), (symbolByte y, y)], 0) := by
      rw [readLast_symbolByte _ _ hv, readLast_symbolByte _ _ hw, readLast_symbolByte _ _ hx,
        readLast_symbolByte _ _ hy]
      rfl
    rw [decodeFrom, decodeLast, hread]
    · rfl
    · simp
  | cons e rest =>
    have hgroup : readGroup offset (symbolByte v) (symbolByte w) (symbolByte x) (symbolByte y) =
        .ok [firstByte v w, secondByte w x, thirdByte x y] := by
      rw [readGroup, readSymbol_symbolByte _ hv, readSymbol_symbolByte _ hw,
        readSymbol_symbolByte _ hx, readSymbol_symbolByte _ hy]
      rfl
    rw [decodeFrom, hgroup, htail]
    rfl

/-- A last group of one byte. -/
theorem decodeFrom_one (offset : Nat) (a : UInt8) :
    decodeFrom offset [symbolByte (a.toNat / 4), symbolByte (a.toNat % 4 * 16), pad, pad] =
      .ok [a] := by
  have ha := a.toNat_lt
  have hread :
      readLast offset 0 [symbolByte (a.toNat / 4), symbolByte (a.toNat % 4 * 16), pad, pad] =
      .ok ([(symbolByte (a.toNat / 4), a.toNat / 4),
        (symbolByte (a.toNat % 4 * 16), a.toNat % 4 * 16)], 2) := by
    rw [readLast_symbolByte _ _ (by omega), readLast_symbolByte _ _ (by omega)]
    rfl
  -- the reader refuses bits that belong to no byte; here there are none
  have hzero : a.toNat % 4 * 16 % 16 = 0 := by omega
  have hbyte := firstByte_cut a (show 0 < 16 by omega)
  rw [Nat.add_zero] at hbyte
  rw [decodeFrom, decodeLast, hread]
  · simp [bind, Except.bind, pure, Except.pure, hzero, hbyte]
  · simp

/-- A last group of two bytes. -/
theorem decodeFrom_two (offset : Nat) (a b : UInt8) :
    decodeFrom offset [symbolByte (a.toNat / 4), symbolByte (a.toNat % 4 * 16 + b.toNat / 16),
      symbolByte (b.toNat % 16 * 4), pad] = .ok [a, b] := by
  have ha := a.toNat_lt
  have hb := b.toNat_lt
  have hread : readLast offset 0 [symbolByte (a.toNat / 4),
      symbolByte (a.toNat % 4 * 16 + b.toNat / 16), symbolByte (b.toNat % 16 * 4), pad] =
      .ok ([(symbolByte (a.toNat / 4), a.toNat / 4),
        (symbolByte (a.toNat % 4 * 16 + b.toNat / 16), a.toNat % 4 * 16 + b.toNat / 16),
        (symbolByte (b.toNat % 16 * 4), b.toNat % 16 * 4)], 1) := by
    rw [readLast_symbolByte _ _ (by omega), readLast_symbolByte _ _ (by omega),
      readLast_symbolByte _ _ (by omega)]
    rfl
  have hzero : b.toNat % 16 * 4 % 4 = 0 := by omega
  have hfirst := firstByte_cut a (show b.toNat / 16 < 16 by omega)
  have hsecond := secondByte_cut (a.toNat % 4) b (show 0 < 4 by omega)
  rw [Nat.add_zero] at hsecond
  rw [decodeFrom, decodeLast, hread]
  · simp [bind, Except.bind, pure, Except.pure, hzero, hfirst, hsecond]
  · simp

/-! ## The crux: one induction along the writer's recursion -/

/-- **Groups read back**, from any offset. -/
theorem decodeFrom_encoded (bytes : List UInt8) (offset : Nat) :
    decodeFrom offset (encodedBytes bytes) = .ok bytes := by
  induction bytes using encodedBytes.induct generalizing offset with
  | case1 => rfl
  | case2 a => exact decodeFrom_one offset a
  | case3 a b => exact decodeFrom_two offset a b
  | case4 a b c rest ih =>
    have ha := a.toNat_lt
    have hb := b.toNat_lt
    have hc := c.toNat_lt
    rw [encodedBytes,
      decodeFrom_group (by omega) (by omega) (by omega) (by omega) (ih (offset + 4)),
      firstByte_cut a (by omega), secondByte_cut _ b (by omega), thirdByte_cut _ c]

/-- **What was written reads back.** -/
theorem decode_encode (bytes : List UInt8) : decode (encode bytes) = .ok bytes := by
  have hend : strayEnd? (encodedBytes bytes) = none := by
    have hlen := length_encodedBytes bytes
    rw [strayEnd?, if_neg (by omega)]
  rw [decode, bytesOf_encode, decodeBytes, hend]
  exact decodeFrom_encoded bytes 0

/-! ## The rule -/

/-- The `width` lowest binary digits of a number, from the highest to the lowest. -/
def bits : Nat → Nat → List Bool
  | 0, _ => []
  | width + 1, n => bits width (n / 2) ++ [n % 2 == 1]

/-- The number that binary digits write. -/
def number (digits : List Bool) : Nat := digits.foldl (fun n digit => 2 * n + digit.toNat) 0

/-- Binary digits six at a time, as numbers; zeros fill up the last six. -/
def sextets : List Bool → List Nat
  | [] => []
  | a :: b :: c :: d :: e :: f :: rest => number [a, b, c, d, e, f] :: sextets rest
  | last => [number (last ++ List.replicate (6 - last.length) false)]

/-- The symbols of bytes: one for every six binary digits of all bytes in a row. -/
def symbols (bytes : List UInt8) : List Char :=
  (sextets (bytes.flatMap fun b => bits 8 b.toNat)).map symbol

/-- Base 64 of bytes: their symbols, with padding up to a multiple of four. -/
def standard (bytes : List UInt8) : String :=
  String.ofList (symbols bytes ++ List.replicate ((4 - (symbols bytes).length % 4) % 4) '=')

/-! ## Binary digits -/

@[simp] theorem length_bits (width n : Nat) : (bits width n).length = width := by
  induction width generalizing n with
  | zero => rfl
  | succ width ih => simp [bits, ih]

/-- The digits of a number are those of its high part and those of its low part. -/
theorem bits_add (high low n : Nat) :
    bits (high + low) n = bits high (n / 2 ^ low) ++ bits low n := by
  induction low generalizing n with
  | zero => simp [bits]
  | succ low ih =>
    rw [← Nat.add_assoc, bits, bits, ih, List.append_assoc, Nat.div_div_eq_div_mul, Nat.pow_succ']

theorem number_append_digit (digits : List Bool) (digit : Bool) :
    number (digits ++ [digit]) = 2 * number digits + digit.toNat := by
  simp [number]

/-- Digits after others: the others count for more. -/
theorem number_append_bits (digits : List Bool) (width n : Nat) :
    number (digits ++ bits width n) = number digits * 2 ^ width + n % 2 ^ width := by
  induction width generalizing n with
  | zero => simp [bits, Nat.mod_one]
  | succ width ih =>
    have hdigit : (n % 2 == 1).toNat = n % 2 := by
      rcases Nat.mod_two_eq_zero_or_one n with h | h <;> simp [h]
    rw [bits, ← List.append_assoc, number_append_digit, ih, hdigit, Nat.pow_succ', Nat.mod_mul,
      Nat.mul_add, Nat.mul_left_comm]
    omega

theorem number_bits (width n : Nat) : number (bits width n) = n % 2 ^ width := by
  simpa [number] using number_append_bits [] width n

/-- Six digits are cut off. -/
theorem sextets_append {digits : List Bool} (hlength : digits.length = 6) (rest : List Bool) :
    sextets (digits ++ rest) = number digits :: sextets rest := by
  match digits, hlength with
  | [a, b, c, d, e, f], _ => rfl

theorem replicate_false (width : Nat) : List.replicate width false = bits width 0 := by
  induction width with
  | zero => rfl
  | succ width ih => rw [List.replicate_succ', ih, bits, Nat.zero_div]; rfl

/-- Fewer than six digits are filled up. -/
theorem sextets_short {digits : List Bool} (hpos : 0 < digits.length)
    (hlength : digits.length < 6) :
    sextets digits = [number digits * 2 ^ (6 - digits.length)] := by
  have hfill : sextets digits = [number (digits ++ List.replicate (6 - digits.length) false)] := by
    match digits, hpos, hlength with
    | [_], _, _ => rfl
    | [_, _], _, _ => rfl
    | [_, _, _], _, _ => rfl
    | [_, _, _, _], _, _ => rfl
    | [_, _, _, _, _], _, _ => rfl
  rw [hfill, replicate_false, number_append_bits, Nat.zero_mod, Nat.add_zero]

/-- **One symbol.** With up to four digits of a number `n` carried over, the next six are these and
the first of the byte that follows; what is left of the byte is carried over in turn. -/
theorem sextets_carry (width n : Nat) (b : UInt8) (tail : List Bool) (hwidth : width ≤ 4) :
    sextets (bits width n ++ (bits 8 b.toNat ++ tail)) =
      (n % 2 ^ width * 2 ^ (6 - width) + b.toNat / 2 ^ (2 + width))
        :: sextets (bits (2 + width) b.toNat ++ tail) := by
  have hsum : 6 - width + (2 + width) = 8 := by omega
  have hsplit : bits 8 b.toNat =
      bits (6 - width) (b.toNat / 2 ^ (2 + width)) ++ bits (2 + width) b.toNat := by
    rw [← bits_add, hsum]
  have hhigh : b.toNat / 2 ^ (2 + width) < 2 ^ (6 - width) := by
    apply Nat.div_lt_of_lt_mul
    rw [← Nat.pow_add, Nat.add_comm, hsum]
    exact b.toNat_lt
  rw [hsplit, List.append_assoc, ← List.append_assoc, sextets_append (by simp; omega),
    number_append_bits, number_bits, Nat.mod_eq_of_lt hhigh]

/-- The first symbol of a group: nothing is carried over. -/
theorem sextets_first (a : UInt8) (tail : List Bool) :
    sextets (bits 8 a.toNat ++ tail) = a.toNat / 4 :: sextets (bits 2 a.toNat ++ tail) := by
  have hcarry := sextets_carry 0 0 a tail (by omega)
  rw [Nat.zero_mod, Nat.zero_mul, Nat.zero_add] at hcarry
  exact hcarry

/-- The symbols of a last byte. -/
theorem symbols_one (a : UInt8) :
    symbols [a] = [symbol (a.toNat / 4), symbol (a.toNat % 4 * 16)] := by
  have hcut : sextets (bits 8 a.toNat ++ []) = [a.toNat / 4, a.toNat % 4 * 16] := by
    rw [sextets_first, List.append_nil, sextets_short (by simp) (by simp), number_bits, length_bits]
    rfl
  exact congrArg (List.map symbol) hcut

/-- The symbols of the last two bytes. -/
theorem symbols_two (a b : UInt8) :
    symbols [a, b] = [symbol (a.toNat / 4), symbol (a.toNat % 4 * 16 + b.toNat / 16),
      symbol (b.toNat % 16 * 4)] := by
  have hcut : sextets (bits 8 a.toNat ++ (bits 8 b.toNat ++ [])) =
      [a.toNat / 4, a.toNat % 4 * 16 + b.toNat / 16, b.toNat % 16 * 4] := by
    rw [sextets_first, sextets_carry 2 _ b _ (by omega), List.append_nil,
      sextets_short (by simp) (by simp), number_bits, length_bits]
    rfl
  exact congrArg (List.map symbol) hcut

/-- The symbols of three bytes and of what follows them. -/
theorem symbols_three (a b c : UInt8) (rest : List UInt8) :
    symbols (a :: b :: c :: rest) = symbol (a.toNat / 4) :: symbol (a.toNat % 4 * 16 + b.toNat / 16)
      :: symbol (b.toNat % 16 * 4 + c.toNat / 64) :: symbol (c.toNat % 64) :: symbols rest := by
  have hcut (tail : List Bool) :
      sextets (bits 8 a.toNat ++ (bits 8 b.toNat ++ (bits 8 c.toNat ++ tail))) =
        a.toNat / 4 :: (a.toNat % 4 * 16 + b.toNat / 16) :: (b.toNat % 16 * 4 + c.toNat / 64)
          :: c.toNat % 64 :: sextets tail := by
    rw [sextets_first, sextets_carry 2 _ b _ (by omega), sextets_carry 4 _ c _ (by omega),
      sextets_append (length_bits _ _), number_bits]
    rfl
  exact congrArg (List.map symbol) (hcut _)

/-- **What is written is base 64.** -/
theorem encode_eq_standard (bytes : List UInt8) : encode bytes = standard bytes := by
  have hchars : encodeChars bytes =
      symbols bytes ++ List.replicate ((4 - (symbols bytes).length % 4) % 4) '=' := by
    induction bytes using encodeChars.induct with
    | case1 => rfl
    | case2 a => rw [symbols_one]; rfl
    | case3 a b => rw [symbols_two]; rfl
    | case4 a b c rest ih =>
      have hlength : (symbols (a :: b :: c :: rest)).length % 4 = (symbols rest).length % 4 := by
        simp [symbols_three, Nat.add_assoc]
      rw [hlength, symbols_three, encodeChars, ih]
      rfl
  rw [encode, standard, hchars]

example : standard [104, 105] = "aGk=" := by decide

end AppRelease.Base64
