import AppRelease.Dict
import AppRelease.Proofs.Base64

/-!
# The order of texts is that of their bytes

Program: texts are compared character by character, as dictionaries do with their keys.

Specification: `Text.lt_iff_bytesOf_lt`. In UTF-8 a smaller character has smaller bytes, whatever
follows, so texts stand in the order in which their bytes do.

The crux is one character (`utf8EncodeChar_append_lt`). A longer form starts with a greater byte
than any shorter one. Forms of one length write the same six bits at the same place, from the
highest to the lowest.
-/

namespace AppRelease.Text

/-- A comparison of lists of bytes is decided by the first two bytes, or by what follows them. -/
theorem cons_byte_lt_iff {a b : Nat} (ha : a < 256) (hb : b < 256) {l l' : List UInt8} :
    UInt8.ofNat a :: l < UInt8.ofNat b :: l' ↔ a < b ∨ a = b ∧ l < l' := by
  rw [List.cons_lt_cons_iff, UInt8.lt_iff_toNat_lt, ← UInt8.toNat_inj,
    UInt8.toNat_ofNat_of_lt' ha, UInt8.toNat_ofNat_of_lt' hb]

/-- A smaller number is smaller in the first of its parts of six bits in which two numbers
differ. -/
theorem sixBits_lt {v w : Nat} (h : v < w) : v / 262144 < w / 262144 ∨ v / 262144 = w / 262144 ∧
    (v / 4096 % 64 < w / 4096 % 64 ∨ v / 4096 % 64 = w / 4096 % 64 ∧
      (v / 64 % 64 < w / 64 % 64 ∨ v / 64 % 64 = w / 64 % 64 ∧ v % 64 < w % 64)) := by
  have hstep : ∀ {a b : Nat}, a < b → a / 64 < b / 64 ∨ a / 64 = b / 64 ∧
      a % 64 < b % 64 := by omega
  have hparts : ∀ n : Nat, n / 64 / 64 = n / 4096 ∧ n / 4096 / 64 = n / 262144 := by omega
  obtain ⟨hv, hv'⟩ := hparts v
  obtain ⟨hw, hw'⟩ := hparts w
  rcases hstep h with hlt | ⟨heq, hlow⟩
  · rcases hstep hlt with hlt | ⟨heq, hlow⟩
    · rcases hstep hlt with hlt | ⟨heq, hlow⟩
      · exact .inl (by omega)
      · exact .inr ⟨by omega, .inl (by omega)⟩
    · exact .inr ⟨by omega, .inr ⟨by omega, .inl hlow⟩⟩
  · exact .inr ⟨by omega, .inr ⟨by omega, .inr ⟨by omega, hlow⟩⟩⟩

/-- **A smaller character has smaller bytes**, whatever follows. -/
theorem utf8EncodeChar_append_lt {c d : Char} (h : c < d) (rest rest' : List UInt8) :
    String.utf8EncodeChar c ++ rest < String.utf8EncodeChar d ++ rest' := by
  have hlt : c.val.toNat < d.val.toNat := h
  have hc : c.val.toNat < 0x110000 := by
    have hvalid : c.val.toNat < 0xD800 ∨ 0xDFFF < c.val.toNat ∧ c.val.toNat < 0x110000 := c.valid
    omega
  have hd : d.val.toNat < 0x110000 := by
    have hvalid : d.val.toNat < 0xD800 ∨ 0xDFFF < d.val.toNat ∧ d.val.toNat < 0x110000 := d.valid
    omega
  simp only [String.utf8EncodeChar]
  generalize c.val.toNat = v at *
  generalize d.val.toNat = w at *
  have hparts := sixBits_lt hlt
  have hv : v / 262144 % 8 = v / 262144 := Nat.mod_eq_of_lt (by omega)
  have hw : w / 262144 % 8 = w / 262144 := Nat.mod_eq_of_lt (by omega)
  -- of the sixteen pairs of forms, six have the greater character in the shorter form
  repeat' split
  all_goals simp (disch := omega) only [List.cons_append, List.nil_append, cons_byte_lt_iff]
  all_goals omega

/-- The bytes of a text, character by character. -/
theorem bytesOf_eq_flatMap (s : String) : bytesOf s = s.toList.flatMap String.utf8EncodeChar := by
  rw [← Base64.bytesOf_ofList, String.ofList_toList]

theorem flatMap_utf8EncodeChar_lt {cs ds : List Char} (h : cs < ds) :
    cs.flatMap String.utf8EncodeChar < ds.flatMap String.utf8EncodeChar := by
  induction cs generalizing ds with
  | nil =>
    cases ds with
    | nil => exact absurd h (List.lt_irrefl _)
    | cons d ds =>
      rw [List.flatMap_nil, List.flatMap_cons]
      have hne : String.utf8EncodeChar d ++ ds.flatMap String.utf8EncodeChar ≠ [] := by
        simp
      obtain ⟨b, bs, hb⟩ := List.exists_cons_of_ne_nil hne
      rw [hb]
      exact List.nil_lt_cons b bs
  | cons c cs ih =>
    cases ds with
    | nil => exact absurd h (List.not_lt_nil _)
    | cons d ds =>
      rw [List.flatMap_cons, List.flatMap_cons]
      rcases List.cons_lt_cons_iff.mp h with hlt | ⟨rfl, hlt⟩
      · exact utf8EncodeChar_append_lt hlt _ _
      · exact List.append_left_lt (ih hlt)

/-- **Texts stand in the order of their bytes.** -/
theorem lt_iff_bytesOf_lt {s t : String} : s < t ↔ bytesOf s < bytesOf t := by
  have hforward : ∀ {s t : String}, s < t → bytesOf s < bytesOf t := by
    intro s t h
    rw [bytesOf_eq_flatMap, bytesOf_eq_flatMap]
    exact flatMap_utf8EncodeChar_lt (String.lt_iff.mp h)
  refine ⟨hforward, fun h => ?_⟩
  by_cases hlt : s < t
  · exact hlt
  · by_cases heq : s = t
    · subst heq
      exact absurd h (List.lt_irrefl _)
    · exact absurd h (List.lt_asymm (hforward (key_lt_of_not_lt_of_ne hlt heq)))

end AppRelease.Text
