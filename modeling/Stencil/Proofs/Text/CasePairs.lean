import Stencil.Text.LetterCase

/-!
# Capital and small letters

A character with another lower case is a letter, and so is its lower case: both have a case, and
neither is passed over when the end of a word is looked for. So what a text has for letters is the
same after each character has been replaced by its lower case.

The tables are compared as sets of code points, each set being the binary digits of a number.

## Main definitions

* `CharRanges.digits ranges`: the code points in ranges as the binary digits of a number
* `IsLetter c`: a character has a case and is not passed over

## Main results

* `lower_cases`: the three forms of a lower case
* `CaseRun.isLetter`, `CaseRun.isLetter_image`: a character with another lower case is a letter, as
  is its lower case
* `eq_sigma_of_mem_lower`: only a sigma has a small sigma for its lower case
* `not_isLower_of_mem_upper`: upper case holds no small letter below `0x80`
-/

namespace Stencil.Text

/-! ## Sets of code points -/

namespace CharRanges

/-- The code points in one of the ranges, as the binary digits of a number. -/
def digits (ranges : CharRanges) : Nat :=
  ranges.foldr (fun range rest => (((1 <<< (range.2 + 1 - range.1)) - 1) <<< range.1) ||| rest) 0

theorem testBit_digits {ranges : CharRanges} {n : Nat} :
    ranges.digits.testBit n = true ↔ ∃ range ∈ ranges, range.1 ≤ n ∧ n ≤ range.2 := by
  induction ranges with
  | nil => simp [digits]
  | cons range ranges ih =>
    have hrange : (((1 <<< (range.2 + 1 - range.1)) - 1) <<< range.1).testBit n = true ↔
        range.1 ≤ n ∧ n ≤ range.2 := by
      rw [Nat.testBit_shiftLeft, Nat.one_shiftLeft, Nat.testBit_two_pow_sub_one]
      simp only [ge_iff_le, Bool.and_eq_true, decide_eq_true_eq]
      omega
    change ((_ <<< range.1) ||| digits ranges).testBit n = true ↔ _
    rw [Nat.testBit_or, Bool.or_eq_true, hrange, ih]
    simp

theorem contains_iff_testBit {ranges : CharRanges} {c : Char} :
    ranges.contains c = true ↔ ranges.digits.testBit c.toNat = true :=
  contains_iff.trans testBit_digits.symm

/-- The single code points of a list. -/
def ofPoints (points : List Nat) : CharRanges := points.map fun n => (n, n)

theorem testBit_digits_ofPoints {points : List Nat} {n : Nat} :
    (ofPoints points).digits.testBit n = true ↔ n ∈ points := by
  rw [testBit_digits, ofPoints]
  constructor
  · rintro ⟨range, hrange, hfirst, hlast⟩
    obtain ⟨m, hm, rfl⟩ := List.mem_map.mp hrange
    rwa [Nat.le_antisymm hlast hfirst]
  · exact fun hn => ⟨(n, n), List.mem_map_of_mem hn, Nat.le_refl n, Nat.le_refl n⟩

end CharRanges

/-! ## What the tables move -/

namespace CaseRun

/-- The code points that a run moves. -/
def points (r : CaseRun) : List Nat :=
  List.range' r.first ((r.last - r.first) / r.step + 1) r.step

theorem mem_points {r : CaseRun} {n : Nat} (h : r.covers n = true) : n ∈ r.points := by
  simp only [covers, Bool.and_eq_true, decide_eq_true_eq, beq_iff_eq] at h
  obtain ⟨⟨hfirst, hlast⟩, hstep⟩ := h
  refine List.mem_range'.mpr ⟨(n - r.first) / r.step, ?_, ?_⟩
  · exact Nat.lt_succ_of_le (Nat.div_le_div_right (by omega))
  · rw [Nat.mul_div_cancel' (Nat.dvd_of_mod_eq_zero hstep)]
    omega

/-- Where a run moves a code point. -/
def target (r : CaseRun) (n : Nat) : Nat := (n + r.shift).toNat

end CaseRun

/-- The capital letters below `0x80` as a run. -/
def asciiRun : CaseRun := ⟨0x41, 0x5A, 1, 32⟩

/-- The code points of characters with another lower case, and those of their lower case. -/
def pairedPoints : List Nat :=
  (asciiRun :: lowerRuns).flatMap fun r => r.points ++ r.points.map r.target

/-- The characters with a case, those below `0x80` included. -/
def letterRanges : CharRanges := (0x41, 0x5A) :: (0x61, 0x7A) :: casedRanges

theorem isCased_of_letterRanges {c : Char} (h : letterRanges.contains c = true) :
    isCased c = true := by
  have hascii : ∀ n < 0x80, 0x41 ≤ n ∧ n ≤ 0x5A ∨ 0x61 ≤ n ∧ n ≤ 0x7A →
      (Char.ofNat n).isAlpha = true := by
    decide
  have hbeyond : (casedRanges.all fun range => 0x80 ≤ range.1) = true := by decide +kernel
  obtain ⟨range, hrange, hfirst, hlast⟩ := CharRanges.contains_iff.mp h
  unfold isCased
  by_cases hlow : c.toNat < 0x80
  · have halpha := hascii c.toNat hlow
    rw [Char.ofNat_toNat] at halpha
    rw [if_pos hlow]
    rcases List.mem_cons.mp hrange with rfl | hrange
    · exact halpha (Or.inl ⟨hfirst, hlast⟩)
    rcases List.mem_cons.mp hrange with rfl | hrange
    · exact halpha (Or.inr ⟨hfirst, hlast⟩)
    · have hfar := List.all_eq_true.mp hbeyond range hrange
      simp only [decide_eq_true_eq] at hfar
      omega
  · rw [if_neg hlow]
    rcases List.mem_cons.mp hrange with rfl | hrange
    · simp only at hlast
      omega
    rcases List.mem_cons.mp hrange with rfl | hrange
    · simp only at hlast
      omega
    · exact CharRanges.contains_iff.mpr ⟨range, hrange, hfirst, hlast⟩

theorem pairedPoints_or_letterRanges :
    (CharRanges.ofPoints pairedPoints).digits ||| letterRanges.digits = letterRanges.digits := by
  decide +kernel

theorem pairedPoints_and_ignorable :
    (CharRanges.ofPoints pairedPoints).digits &&& caseIgnorableRanges.digits = 0 := by
  decide +kernel

/-- Letters are characters, which leaves out the surrogates. -/
theorem isValidChar_of_letterRanges {n : Nat} (h : letterRanges.digits.testBit n = true) :
    n.isValidChar := by
  have hvalid : (letterRanges.all fun range =>
      range.2 < 0xD800 || (0xDFFF < range.1 && range.2 < 0x110000)) = true := by
    decide +kernel
  obtain ⟨range, hrange, hfirst, hlast⟩ := CharRanges.testBit_digits.mp h
  have hbounds := List.all_eq_true.mp hvalid range hrange
  simp only [Bool.or_eq_true, Bool.and_eq_true, decide_eq_true_eq] at hbounds
  unfold Nat.isValidChar
  omega

/-! ## Letters -/

/-- A character that has a case and is not passed over when the end of a word is looked for. -/
structure IsLetter (c : Char) : Prop where
  cased : isCased c = true
  kept : isCaseIgnorable c = false

theorem toNat_ofNat_of_mem {n : Nat} (h : n ∈ pairedPoints) : (Char.ofNat n).toNat = n := by
  have hletter : letterRanges.digits.testBit n = true := by
    rw [← pairedPoints_or_letterRanges, Nat.testBit_or, Bool.or_eq_true]
    exact Or.inl (CharRanges.testBit_digits_ofPoints.mpr h)
  rw [Char.ofNat, dif_pos (isValidChar_of_letterRanges hletter)]
  rfl

/-- The tables hold letters only. -/
theorem isLetter_ofNat_of_mem {n : Nat} (h : n ∈ pairedPoints) : IsLetter (Char.ofNat n) := by
  have hpoint := CharRanges.testBit_digits_ofPoints.mpr h
  constructor
  · apply isCased_of_letterRanges
    rw [CharRanges.contains_iff_testBit, toNat_ofNat_of_mem h, ← pairedPoints_or_letterRanges,
      Nat.testBit_or, hpoint, Bool.true_or]
  · have hboth := congrArg (Nat.testBit · n) pairedPoints_and_ignorable
    simp only [Nat.testBit_and, hpoint, Bool.true_and, Nat.zero_testBit] at hboth
    rw [isCaseIgnorable, ← Bool.not_eq_true, CharRanges.contains_iff_testBit,
      toNat_ofNat_of_mem h, hboth]
    exact Bool.false_ne_true

namespace CaseRun

variable {r : CaseRun} {n : Nat}

theorem mem_pairedPoints (hr : r ∈ asciiRun :: lowerRuns) (h : r.covers n = true) :
    n ∈ pairedPoints ∧ r.target n ∈ pairedPoints := by
  have hn := mem_points h
  constructor
  · exact List.mem_flatMap.mpr ⟨r, hr, List.mem_append_left _ hn⟩
  · exact List.mem_flatMap.mpr ⟨r, hr, List.mem_append_right _ (List.mem_map_of_mem hn)⟩

/-- What a run moves is a letter. -/
theorem isLetter {c : Char} (hr : r ∈ asciiRun :: lowerRuns) (h : r.covers c.toNat = true) :
    IsLetter c := by
  have hletter := isLetter_ofNat_of_mem (mem_pairedPoints hr h).1
  rwa [Char.ofNat_toNat] at hletter

/-- What a run moves it to is a letter. -/
theorem isLetter_image (hr : r ∈ asciiRun :: lowerRuns) (h : r.covers n = true) :
    IsLetter (r.image n) :=
  isLetter_ofNat_of_mem (mem_pairedPoints hr h).2

/-- Only the capital sigma is moved to the small one. -/
theorem eq_of_image_eq_sigma (hr : r ∈ asciiRun :: lowerRuns) (h : r.covers n = true)
    (himage : r.image n = 'σ') : n = 0x3A3 := by
  have hruns : ((asciiRun :: lowerRuns).all fun r =>
      !r.covers (0x3C3 - r.shift).toNat || (0x3C3 - r.shift).toNat == 0x3A3) = true := by
    decide +kernel
  have htarget : r.target n = 0x3C3 := by
    rw [← toNat_ofNat_of_mem (mem_pairedPoints hr h).2]
    exact congrArg Char.toNat himage
  have hn : n = (0x3C3 - r.shift).toNat := by
    unfold target at htarget
    omega
  have hrun := List.all_eq_true.mp hruns r hr
  rw [← hn, h] at hrun
  simpa using hrun

end CaseRun

/-! ## Lower case of a character -/

/-- A character has itself for its lower case, or one of the letters of the tables, or two
characters in the one case that is not in the tables. -/
theorem lower_cases (c : Char) :
    lower c = [c] ∨
      (∃ r ∈ asciiRun :: lowerRuns, r.covers c.toNat = true ∧ lower c = [r.image c.toNat]) ∨
      (c = 'İ' ∧ lower c = ['i', '\u0307']) := by
  by_cases hlow : c.toNat < 0x80
  · have hascii : ∀ n < 0x80, (Char.ofNat n).toLower = Char.ofNat n ∨
        asciiRun.covers n = true ∧ (Char.ofNat n).toLower = asciiRun.image n := by
      decide
    have hc := hascii c.toNat hlow
    rw [Char.ofNat_toNat] at hc
    rw [lower_of_lt hlow]
    rcases hc with hc | ⟨hcovers, hc⟩
    · exact Or.inl (by rw [hc])
    · exact Or.inr (Or.inl ⟨asciiRun, List.mem_cons_self, hcovers, by rw [hc]⟩)
  · rw [lower, if_neg hlow, caseImage]
    cases hexpansion : lowerExpansions.lookup c.toNat with
    | some image =>
      obtain ⟨before, after, hsplit, -⟩ := List.lookup_eq_some_iff.mp hexpansion
      have hmem : (c.toNat, image) ∈ lowerExpansions := by simp [hsplit]
      obtain ⟨hcode, rfl⟩ := Prod.mk.inj (List.mem_singleton.mp hmem)
      refine Or.inr (Or.inr ⟨?_, rfl⟩)
      rw [← Char.ofNat_toNat c, hcode]
    | none =>
      cases hrun : lowerRuns.find? (·.covers c.toNat) with
      | some r =>
        have hcovers := @List.find?_some _ (fun r => r.covers c.toNat) r lowerRuns hrun
        have hr := List.mem_of_find?_eq_some hrun
        exact Or.inr (Or.inl ⟨r, List.mem_cons_of_mem _ hr, hcovers, rfl⟩)
      | none => exact Or.inl rfl

/-- Only a sigma has a small sigma for its lower case. -/
theorem eq_sigma_of_mem_lower {c : Char} (h : 'σ' ∈ lower c) : c = 'Σ' ∨ c = 'σ' := by
  rcases lower_cases c with hc | ⟨r, hr, hcovers, hc⟩ | ⟨-, hc⟩
  · rw [hc] at h
    exact Or.inr (List.mem_singleton.mp h).symm
  · rw [hc] at h
    have hn := CaseRun.eq_of_image_eq_sigma hr hcovers (List.mem_singleton.mp h).symm
    refine Or.inl ?_
    rw [← Char.ofNat_toNat c, hn]
  · rw [hc] at h
    exact absurd h (by decide)

/-! ## Upper case of a character -/

theorem isLower_iff_toNat {c : Char} : c.isLower = true ↔ 97 ≤ c.toNat ∧ c.toNat ≤ 122 := by
  unfold Char.isLower
  rw [Bool.and_eq_true, decide_eq_true_eq, decide_eq_true_eq]
  exact Iff.rfl

/-- Where a code point is moved to, unless this is no character. -/
theorem CaseRun.toNat_image (r : CaseRun) (n : Nat) :
    (r.image n).toNat = r.target n ∨ (r.image n).toNat = 0 := by
  have himage : r.image n = Char.ofNat (r.target n) := rfl
  rw [himage, Char.ofNat]
  by_cases hvalid : (r.target n).isValidChar
  · left
    rw [dif_pos hvalid]
    rfl
  · right
    rw [dif_neg hvalid]
    rfl

/-- No run of upper case moves a code point to a small letter below `0x80`. -/
theorem CaseRun.not_isLower_image {r : CaseRun} (hr : r ∈ upperRuns) {n : Nat}
    (h : r.covers n = true) : ¬ (r.image n).isLower = true := by
  have hruns : (upperRuns.all fun r => (List.range' 97 26).all fun m =>
      !r.covers (m - r.shift).toNat) = true := by
    decide +kernel
  intro hlower
  obtain ⟨hlow, hhigh⟩ := isLower_iff_toNat.mp hlower
  have htarget : r.target n = (r.image n).toNat := by
    rcases r.toNat_image n with himage | himage
    · exact himage.symm
    · omega
  -- The code point is read off the letter that it is moved to.
  have hcode : ((r.target n : Int) - r.shift).toNat = n := by
    unfold target at htarget ⊢
    omega
  have hmem : r.target n ∈ List.range' 97 26 := List.mem_range'_1.mpr (by omega)
  have hcovers := List.all_eq_true.mp (List.all_eq_true.mp hruns r hr) _ hmem
  rw [hcode, h] at hcovers
  cases hcovers

/-- **Upper case** holds no small letter below `0x80`, whatever character it is the upper case of. -/
theorem not_isLower_of_mem_upper {c d : Char} (h : d ∈ upper c) : ¬ d.isLower = true := by
  by_cases hlow : c.toNat < 0x80
  · have hascii : ∀ n < 0x80, ¬ (Char.ofNat n).toUpper.isLower = true := by decide
    have hc := hascii c.toNat hlow
    rw [Char.ofNat_toNat] at hc
    rw [upper_of_lt hlow, List.mem_singleton] at h
    rwa [h]
  rw [upper, if_neg hlow, caseImage] at h
  split at h
  · rename_i image hexpansion
    have hexpansions : (upperExpansions.all fun entry => entry.2.all fun n =>
        !(Char.ofNat n).isLower) = true := by
      decide +kernel
    obtain ⟨before, after, hsplit, -⟩ := List.lookup_eq_some_iff.mp hexpansion
    obtain ⟨n, hn, rfl⟩ := List.mem_map.mp h
    have hmem : (c.toNat, image) ∈ upperExpansions := by simp [hsplit]
    have hnot := List.all_eq_true.mp (List.all_eq_true.mp hexpansions _ hmem) n hn
    simpa using hnot
  · split at h
    · rename_i r hrun
      rw [List.mem_singleton.mp h]
      exact CaseRun.not_isLower_image (List.mem_of_find?_eq_some hrun)
        (@List.find?_some _ (fun r => r.covers c.toNat) r upperRuns hrun)
    · rw [List.mem_singleton.mp h, isLower_iff_toNat]
      omega

end Stencil.Text
