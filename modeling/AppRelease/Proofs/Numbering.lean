import AppRelease.Proofs.ByteOrder
import AppRelease.Proofs.Rendering

/-!
# Files in the order of their objects

Program: the files of an application are numbered in the order in which its objects are to be made,
with two digits at least. Rendering reports them by these names (`Renderer.render_fst`).

Specification: whoever goes through the directory in the order of names, byte by byte, meets the
objects in that order (`ManifestSet.file_names_in_order`). This holds up to a hundred objects and no
further, whatever their kinds and names are. The names differ however many there are.

1. **The crux (`Numeral.ofDigitChars_lt_iff`).** Rows of as many digits stand in the order of their
   numbers. Such rows are compared before anything that follows them (`Text.append_lt_append`).
2. **A hundred objects.** Up to 99 a number has two digits (`length_twoDigits`), so it decides
   (`twoDigits_append_lt`). The number 100 starts with a smaller digit than 99
   (`Manifest.fileName_hundred_lt`).
3. **Any number of objects.** Longer numbers do not decide the order, but the first hyphen tells
   where a number ends (`Manifest.index_of_fileName`).
-/

namespace AppRelease

/-! ## Digits in order -/

/-- Rows of the same length are compared before what follows them. -/
theorem Text.append_lt_append {cs ds : List Char} (hlength : cs.length = ds.length) (h : cs < ds)
    (rest rest' : List Char) : cs ++ rest < ds ++ rest' := by
  induction cs generalizing ds with
  | nil =>
    obtain rfl := List.length_eq_zero_iff.mp hlength.symm
    exact absurd h (List.lt_irrefl _)
  | cons c cs ih =>
    cases ds with
    | nil => exact absurd h (List.not_lt_nil _)
    | cons d ds =>
      rw [List.cons_append, List.cons_append, List.cons_lt_cons_iff]
      rcases List.cons_lt_cons_iff.mp h with hlt | ⟨rfl, hlt⟩
      · exact .inl hlt
      · exact .inr ⟨rfl, ih (Nat.succ.inj hlength) hlt⟩

namespace Numeral

/-- A digit is told by its value, and digits stand in the order of their values. -/
theorem digit_value {c d : Char} (hc : c.isDigit = true) (hd : d.isDigit = true) :
    c.toNat - '0'.toNat < 10 ∧ (c < d ↔ c.toNat - '0'.toNat < d.toNat - '0'.toNat) ∧
      (c = d ↔ c.toNat - '0'.toNat = d.toNat - '0'.toNat) := by
  have hlt : c < d ↔ c.toNat < d.toNat := Iff.rfl
  rw [Char.isDigit_iff_toNat] at hc hd
  rw [hlt, ← Char.toNat_inj]
  simp only [Char.reduceToNat] at *
  omega

/-- **Rows of as many digits stand in the order of their numbers.** The digits before them decide
first. -/
theorem ofDigitChars_lt_iff {cs ds : List Char} (hlength : cs.length = ds.length)
    (hcs : ∀ c ∈ cs, c.isDigit = true) (hds : ∀ d ∈ ds, d.isDigit = true) (n m : Nat) :
    Nat.ofDigitChars 10 cs n < Nat.ofDigitChars 10 ds m ↔ n < m ∨ n = m ∧ cs < ds := by
  -- digits that have been read go over to the numbers before the rows, so the induction is over any
  -- such numbers
  induction cs generalizing ds n m with
  | nil =>
    obtain rfl := List.length_eq_zero_iff.mp hlength.symm
    rw [Nat.ofDigitChars_nil, Nat.ofDigitChars_nil]
    exact ⟨.inl, fun h => h.elim id fun hempty => absurd hempty.2 (List.lt_irrefl _)⟩
  | cons c cs ih =>
    cases ds with
    | nil => simp at hlength
    | cons d ds =>
      rw [List.forall_mem_cons] at hcs hds
      obtain ⟨hsmall, hlt, heq⟩ := digit_value hcs.1 hds.1
      have hsmall' := (digit_value hds.1 hcs.1).1
      rw [Nat.ofDigitChars_cons, Nat.ofDigitChars_cons, ih (Nat.succ.inj hlength) hcs.2 hds.2,
        List.cons_lt_cons_iff, hlt, heq]
      generalize c.toNat - '0'.toNat = value at *
      generalize d.toNat - '0'.toNat = value' at *
      have hless : 10 * n + value < 10 * m + value' ↔ n < m ∨ n = m ∧ value < value' := by omega
      have hsame : 10 * n + value = 10 * m + value' ↔ n = m ∧ value = value' := by omega
      rw [hless, hsame, or_assoc, and_assoc, ← and_or_left]

end Numeral

/-- Numbers up to 99 are written with two digits. -/
theorem length_twoDigits {n : Nat} (h : n < 100) : (twoDigits n).toList.length = 2 := by
  by_cases hsmall : n < 10
  · simp [twoDigits, if_pos hsmall, Numeral.decimal, Nat.toDigits_of_lt_base hsmall]
  · have htens : n / 10 < 10 := by omega
    simp [twoDigits, if_neg hsmall, Numeral.decimal,
      Nat.toDigits_of_base_le (by decide) (Nat.le_of_not_lt hsmall), Nat.toDigits_of_lt_base htens]

/-- **Numbers up to 99 are compared first**, whatever follows them. -/
theorem twoDigits_append_lt {i j : Nat} (hij : i < j) (hj : j < 100) (rest rest' : List Char) :
    (twoDigits i).toList ++ rest < (twoDigits j).toList ++ rest' := by
  have hlength : (twoDigits i).toList.length = (twoDigits j).toList.length := by
    rw [length_twoDigits (Nat.lt_trans hij hj), length_twoDigits hj]
  have hvalues : Nat.ofDigitChars 10 (twoDigits i).toList 0 <
      Nat.ofDigitChars 10 (twoDigits j).toList 0 := by
    rw [ofDigitChars_twoDigits, ofDigitChars_twoDigits]
    exact hij
  rw [Numeral.ofDigitChars_lt_iff hlength (fun _ => isDigit_of_mem_twoDigits) fun _ =>
    isDigit_of_mem_twoDigits]
    at hvalues
  rcases hvalues with hbefore | ⟨-, hdigits⟩
  · exact absurd hbefore (Nat.lt_irrefl 0)
  · exact Text.append_lt_append hlength hdigits rest rest'

/-! ## Names in order -/

/-- Up to 99, a greater number makes a greater name. -/
theorem Manifest.fileName_lt {i j : Nat} (hij : i < j) (hj : j < 100) (m n : Manifest) :
    m.fileName i < n.fileName j := by
  rw [String.lt_iff, toList_fileName, toList_fileName]
  exact twoDigits_append_lt hij hj _ _

/-- The file of number 100 stands before that of number 99, as its name starts with a smaller
digit. -/
theorem Manifest.fileName_hundred_lt (m n : Manifest) : m.fileName 100 < n.fileName 99 := by
  have hhundred : (twoDigits 100).toList = '1' :: ['0', '0'] := by decide
  have hbefore : (twoDigits 99).toList = '9' :: ['9'] := by decide
  rw [String.lt_iff, toList_fileName, toList_fileName, hhundred, hbefore]
  exact List.cons_lt_cons_iff.mpr (.inl (by decide))

namespace ManifestSet

/-- The names of the files of an application, in the order of its objects. -/
def fileNames (s : ManifestSet) : List String := s.manifests.zipIdx.map fun e => e.1.fileName e.2

/-- A relation between the names is one between the objects with their numbers. -/
theorem pairwise_fileNames_iff {s : ManifestSet} {R : String → String → Prop} :
    s.fileNames.Pairwise R ↔
    ∀ (i j : Nat) (_ : i < s.manifests.length) (_ : j < s.manifests.length), i < j →
      R (s.manifests[i].fileName i) (s.manifests[j].fileName j) := by
  simp [fileNames, List.pairwise_iff_getElem]

end ManifestSet

namespace Renderer

/-- Writing reports the paths of all objects, or it fails. -/
theorem writeFrom_fst (directory : String) (index : Nat) (objects : List Manifest) (t : FileTree) :
    (writeFrom directory index objects t).1 = .ok (paths directory index objects) ∨
      ∃ error, (writeFrom directory index objects t).1 = .error error := by
  induction objects generalizing index t with
  | nil => exact .inl rfl
  | cons m rest ih =>
    rw [writeFrom_cons]
    rcases t.write (filePath directory index m) (Text.bytesOf m.toYaml) with ⟨fault | ⟨⟩, one⟩
    · exact .inr ⟨_, rfl⟩
    · have hothers := ih (index + 1) one
      rcases hrest : writeFrom directory (index + 1) rest one with ⟨error | written, after⟩
      · simp only [hrest]
        exact .inr ⟨error, rfl⟩
      · rw [hrest] at hothers
        rcases hothers with hwritten | ⟨error, herror⟩
        · simp only [hrest]
          obtain rfl := Except.ok.inj hwritten
          exact .inl rfl
        · exact absurd herror (by simp)

/-- **Rendering reports the names of the files**, below the directory of the application, or it
fails. -/
theorem render_fst (r : Renderer) (s : ManifestSet) (t : FileTree) :
    (r.render s t).1 = .ok (s.fileNames.map (Path.join (r.directory s))) ∨
      ∃ error, (r.render s t).1 = .error error := by
  have hpaths : s.fileNames.map (Path.join (r.directory s)) =
      paths (r.directory s) 0 s.manifests := by
    rw [ManifestSet.fileNames, List.map_map, paths]
    rfl
  rw [render_eq, hpaths]
  rcases t.createDirectories (r.directory s) with ⟨fault | ⟨⟩, one⟩
  · exact .inr ⟨_, rfl⟩
  · exact writeFrom_fst (r.directory s) 0 s.manifests one

end Renderer

/-- **Files stand in the order of their objects** for up to a hundred objects and no more, when
names are compared by their bytes. Any number of files have names of their own. A rendering that
succeeds reports these names. -/
theorem ManifestSet.file_names_in_order (s : ManifestSet) :
    ((s.fileNames.map Text.bytesOf).Pairwise (· < ·) ↔ s.size ≤ 100) ∧ s.fileNames.Nodup ∧
    ∀ (r : Renderer) (t : FileTree),
      (r.render s t).1 = .ok (s.fileNames.map (Path.join (r.directory s))) ∨
      ∃ error, (r.render s t).1 = .error error := by
  refine ⟨?_, ?_, fun r t => r.render_fst s t⟩
  · rw [List.pairwise_map, pairwise_fileNames_iff]
    constructor
    · intro h
      -- with more than a hundred objects there is one of number 100, and its file would follow that
      -- of number 99
      refine Nat.le_of_not_lt fun hmany => ?_
      have hbefore := h 99 100 (Nat.lt_of_succ_lt hmany) hmany (by decide)
      exact List.lt_asymm hbefore (Text.lt_iff_bytesOf_lt.mp (Manifest.fileName_hundred_lt _ _))
    · intro hfew i j _ hj hij
      exact Text.lt_iff_bytesOf_lt.mp (Manifest.fileName_lt hij (Nat.lt_of_lt_of_le hj hfew) _ _)
  · rw [List.Nodup, pairwise_fileNames_iff]
    intro i j _ _ hij hsame
    exact Nat.ne_of_lt hij (Manifest.index_of_fileName hsame)

end AppRelease
