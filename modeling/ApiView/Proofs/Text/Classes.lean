import ApiView.Proofs.Text.Ascii
import ApiView.Proofs.Text.Kept

/-!
# Classes — letters and numbers in another case

The classes of characters and their other case are answered by tables.  This file checks the tables
against each other, one range of code points at a time, and states what follows for characters:

* `isAlphanumeric_ofNat`: the ranges of the tables hold characters;
* `caseMarks`: the marks that a letter can leave behind in another case;
* `isMapped_upperChar`, `isMapped_lowerChar`, `isMapped_lower`: in another case letters and numbers
  are letters, numbers and such marks;
* `not_isBlank_of_isWordChar`, `lt_halfPlane_of_isWordChar`: what no character of a word is.
-/

namespace ApiView
namespace Text

/-! ## Ranges -/

theorem inRanges_iff {ranges : List (Nat × Nat)} {n : Nat} :
    inRanges ranges n = true ↔ ∃ r ∈ ranges, r.1 ≤ n ∧ n ≤ r.2 := by
  simp [inRanges]

/-- Letters and numbers beyond ASCII are characters of the first sixteen planes. -/
theorem wordRanges_valid :
    ∀ r ∈ wordRanges, 128 ≤ r.1 ∧ (r.2 < 0xD800 ∨ 0xDFFF < r.1 ∧ r.2 < 0x100000) := by
  decide +kernel

theorem isAlphanumeric_ofNat {n : Nat} :
    inRanges wordRanges n = true → isAlphanumeric (Char.ofNat n) = true := by
  intro h
  obtain ⟨r, hr, hfirst, hlast⟩ := inRanges_iff.1 h
  obtain ⟨hascii, hplane⟩ := wordRanges_valid r hr
  have hvalid : n.isValidChar := by
    unfold Nat.isValidChar
    omega
  have hvalue : (Char.ofNat n).toNat = n := by
    rw [Char.ofNat, dif_pos hvalid]
    rfl
  rw [isAlphanumeric, hvalue, if_neg (by omega)]
  exact h

/-! ## Marks -/

/-- Combining marks that letters are followed by in another case. -/
def caseMarks : List Char :=
  ['\u0300', '\u0301', '\u0307', '\u0308', '\u030a', '\u030c', '\u0313', '\u0331', '\u0342']

/-- What letters and numbers become in another case. -/
def isMapped (c : Char) : Bool :=
  isAlphanumeric c || caseMarks.contains c

/-! ## Other cases -/

/-- Whether a run of code points is moved into one range of letters and numbers. -/
def Shift.within (r : Shift) : Bool :=
  wordRanges.any fun (lo, hi) =>
    Nat.ble (r.last + r.offset).toNat hi && Nat.ble lo (r.first + r.offset).toNat

/-- Whether a run of code points holds no letter or number. -/
def Shift.outside (r : Shift) : Bool :=
  wordRanges.all fun (lo, hi) => Nat.blt r.last lo || Nat.blt hi r.first

/-- Whether each of a few code points is moved to a letter or number. -/
def Shift.single (r : Shift) : Bool :=
  (List.range (r.last - r.first + 1)).all fun i =>
    !r.holds (r.first + i) || isAlphanumeric (Char.ofNat (r.first + i + r.offset).toNat)

def Shift.keepsWords (r : Shift) : Bool :=
  r.within || r.outside || r.single

/-- Shifts of case keep word characters among each other. -/
theorem shifts_keepWords : ∀ r ∈ lowerShifts ++ upperShifts, r.keepsWords = true := by
  decide +kernel

/-- The sequences of case mappings consist of mapped characters. -/
theorem expansions_mapped :
    ∀ e ∈ lowerExpansions ++ upperExpansions, ∀ n ∈ e.2, isMapped (Char.ofNat n) = true := by
  have hcodes : ∀ e ∈ lowerExpansions ++ upperExpansions, ∀ n ∈ e.2,
      (caseMarks.contains (Char.ofNat n) ||
        wordRanges.any (fun w => Nat.ble w.1 n && Nat.ble n w.2) || isAlphanumeric (Char.ofNat n)) =
          true := by
    decide +kernel
  intro e he n hn
  have hcode := hcodes e he n hn
  rw [Bool.or_eq_true, Bool.or_eq_true] at hcode
  rw [isMapped, Bool.or_eq_true]
  rcases hcode with (hmark | hrange) | hletter
  · exact Or.inr hmark
  · obtain ⟨w, hw, hbounds⟩ := List.any_eq_true.1 hrange
    rw [Bool.and_eq_true, Nat.ble_eq, Nat.ble_eq] at hbounds
    exact Or.inl (isAlphanumeric_ofNat (inRanges_iff.2 ⟨w, hw, hbounds⟩))
  · exact Or.inl hletter

/-- A letter or number that a run moves is moved to one. -/
theorem Shift.isAlphanumeric_moved {r : Shift} {n : Nat} (hkeeps : r.keepsWords = true)
    (hholds : r.holds n = true) (hn : inRanges wordRanges n = true) :
    isAlphanumeric (Char.ofNat (n + r.offset).toNat) = true := by
  have hbounds : r.first ≤ n ∧ n ≤ r.last := by
    simp only [holds, Bool.and_eq_true, decide_eq_true_eq] at hholds
    exact hholds.1
  rw [keepsWords, Bool.or_eq_true, Bool.or_eq_true] at hkeeps
  rcases hkeeps with (hwithin | houtside) | hsingle
  · obtain ⟨range, hmem, hrange⟩ := List.any_eq_true.1 hwithin
    rw [Bool.and_eq_true, Nat.ble_eq, Nat.ble_eq] at hrange
    exact isAlphanumeric_ofNat (inRanges_iff.2 ⟨range, hmem, by omega, by omega⟩)
  · obtain ⟨range, hmem, hrange⟩ := inRanges_iff.1 hn
    have hapart := List.all_eq_true.1 houtside range hmem
    rw [Bool.or_eq_true, Nat.blt_eq, Nat.blt_eq] at hapart
    omega
  · have heach := List.all_eq_true.1 hsingle (n - r.first) (List.mem_range.2 (by omega))
    have hindex : r.first + (n - r.first) = n := by omega
    rw [hindex, hholds] at heach
    have hindexInt : ((r.first : Int) + ((n - r.first : Nat) : Int)) = n := by omega
    simpa [hindexInt] using heach

/-- The other case of a letter or number beyond ASCII. -/
theorem isMapped_mapCase {expansions : List (Nat × List Nat)} {shifts : List Shift} {c : Char}
    (hexpansions : ∀ e ∈ expansions, ∀ n ∈ e.2, isMapped (Char.ofNat n) = true)
    (hshifts : ∀ r ∈ shifts, r.keepsWords = true) (hc : inRanges wordRanges c.toNat = true) :
    ∀ d ∈ mapCase expansions shifts c, isMapped d = true := by
  intro d hd
  have hself : isMapped c = true := by
    have halphanumeric := isAlphanumeric_ofNat hc
    rw [Char.ofNat_toNat] at halphanumeric
    rw [isMapped, halphanumeric, Bool.true_or]
  -- A sequence comes first, then a shift; a character with neither stays.
  unfold mapCase at hd
  split at hd
  · rename_i codes hcodes
    obtain ⟨n, hn, rfl⟩ := List.mem_map.1 hd
    obtain ⟨before, after, hsplit, _⟩ := List.lookup_eq_some_iff.1 hcodes
    exact hexpansions (c.toNat, codes) (by rw [hsplit]; simp) n hn
  · split at hd
    · rename_i r hr
      have hholds : r.holds c.toNat = true :=
        List.find?_some (p := fun r : Shift => r.holds c.toNat) hr
      have hmoved :=
        Shift.isAlphanumeric_moved (hshifts r (List.mem_of_find?_eq_some hr)) hholds hc
      rw [List.mem_singleton.1 hd, isMapped, hmoved, Bool.true_or]
    · rw [List.mem_singleton.1 hd]
      exact hself

/-- A change of case that is answered by tables beyond ASCII leads to letters, numbers and marks. -/
theorem isMapped_change {change : Char → List Char} {expansions : List (Nat × List Nat)}
    {shifts : List Shift}
    (hascii : ∀ c, c.toNat < 128 → isMapped c = true → ∀ d ∈ change c, isMapped d = true)
    (hbeyond : ∀ c, ¬ c.toNat < 128 → change c = mapCase expansions shifts c)
    (hmarks : ∀ c ∈ caseMarks, ∀ d ∈ change c, isMapped d = true)
    (hexpansions : ∀ e ∈ expansions, ∀ n ∈ e.2, isMapped (Char.ofNat n) = true)
    (hshifts : ∀ r ∈ shifts, r.keepsWords = true) {c : Char} :
    isMapped c = true → ∀ d ∈ change c, isMapped d = true := by
  intro hc
  by_cases hsmall : c.toNat < 128
  · exact hascii c hsmall hc
  · rw [isMapped, Bool.or_eq_true, isAlphanumeric, if_neg hsmall] at hc
    rcases hc with hword | hmark
    · rw [hbeyond c hsmall]
      exact isMapped_mapCase hexpansions hshifts hword
    · exact hmarks c (List.contains_iff_mem.1 hmark)

/-- In ASCII the other case of a letter or number is one. -/
theorem isMapped_of_ascii : ∀ c : Char, c.toNat < 128 → isMapped c = true →
    isMapped c.toUpper = true ∧ isMapped c.toLower = true := by
  have hcodes : ((List.range 128).all fun n => !isMapped (Char.ofNat n) ||
      isMapped (Char.ofNat n).toUpper && isMapped (Char.ofNat n).toLower) = true := by
    decide +kernel
  refine forall_ascii fun n hn hmapped => ?_
  have hcode := List.all_eq_true.1 hcodes n (List.mem_range.2 hn)
  rwa [hmapped, Bool.not_true, Bool.false_or, Bool.and_eq_true] at hcode

/-- The other case of a mark is a letter, a number or a mark. -/
theorem isMapped_of_mark : ∀ c ∈ caseMarks,
    (upperChar c).all isMapped = true ∧ (lowerChar c).all isMapped = true := by
  have hmarks : (caseMarks.all fun c => (upperChar c).all isMapped && (lowerChar c).all isMapped) =
      true := by
    decide +kernel
  intro c hc
  exact Bool.and_eq_true_iff.1 (List.all_eq_true.1 hmarks c hc)

theorem isMapped_upperChar {c : Char} : isMapped c = true → ∀ d ∈ upperChar c, isMapped d = true := by
  have hascii : ∀ c, c.toNat < 128 → isMapped c = true → ∀ d ∈ upperChar c, isMapped d = true := by
    intro c hc hmapped d hd
    rw [upperChar_of_ascii c hc] at hd
    rw [List.mem_singleton.1 hd]
    exact (isMapped_of_ascii c hc hmapped).1
  exact isMapped_change hascii (fun _ hbeyond => if_neg hbeyond)
    (fun c hc => List.all_eq_true.1 (isMapped_of_mark c hc).1)
    (fun e he => expansions_mapped e (List.mem_append_right _ he))
    (fun r hr => shifts_keepWords r (List.mem_append_right _ hr))

theorem isMapped_lowerChar {c : Char} : isMapped c = true → ∀ d ∈ lowerChar c, isMapped d = true := by
  have hascii : ∀ c, c.toNat < 128 → isMapped c = true → ∀ d ∈ lowerChar c, isMapped d = true := by
    intro c hc hmapped d hd
    rw [lowerChar_of_ascii c hc] at hd
    rw [List.mem_singleton.1 hd]
    exact (isMapped_of_ascii c hc hmapped).2
  exact isMapped_change hascii (fun _ hbeyond => if_neg hbeyond)
    (fun c hc => List.all_eq_true.1 (isMapped_of_mark c hc).2)
    (fun e he => expansions_mapped e (List.mem_append_left _ he))
    (fun r hr => shifts_keepWords r (List.mem_append_left _ hr))

/-- The small form of a text, whatever stands before it. -/
theorem isMapped_lowerFrom {cs : List Char} (afterCased : Bool) :
    (∀ c ∈ cs, isMapped c = true) → ∀ d ∈ lowerFrom afterCased cs, isMapped d = true := by
  intro h d hd
  induction cs generalizing afterCased with
  | nil =>
      cases hd
  | cons c rest ih =>
      rw [lowerFrom, List.mem_append] at hd
      rcases hd with hhead | hrest
      · split at hhead
        · -- A sigma has one of two small forms.
          have hforms : isMapped 'ς' = true ∧ isMapped 'σ' = true := by decide
          rw [List.mem_singleton] at hhead
          subst hhead
          split
          · exact hforms.1
          · exact hforms.2
        · exact isMapped_lowerChar (h c List.mem_cons_self) d hhead
      · exact ih _ (fun e he => h e (List.mem_cons_of_mem c he)) hrest

theorem isMapped_lower {cs : List Char} :
    (∀ c ∈ cs, isMapped c = true) → ∀ d ∈ lower cs, isMapped d = true :=
  isMapped_lowerFrom false

/-! ## What no character of a word is -/

theorem not_isBlank_of_isWordChar {c : Char} : isWordChar c = true → isBlank c = false := by
  have hascii : ∀ c : Char, c.toNat < 128 → isWordChar c = true → isBlank c = false :=
    forall_ascii (by decide +kernel)
  have hapart : (blankRanges.all fun r => wordRanges.all fun w =>
      Nat.blt w.2 r.1 || Nat.blt r.2 w.1) = true := by
    decide +kernel
  intro hword
  by_cases hsmall : c.toNat < 128
  · exact hascii c hsmall hword
  · -- Beyond ASCII no range of blanks meets one of letters and numbers.
    rw [isWordChar, Bool.or_eq_true, isAlphanumeric, if_neg hsmall] at hword
    rcases hword with hletter | hunderscore
    · obtain ⟨w, hw, hwfirst, hwlast⟩ := inRanges_iff.1 hletter
      by_contra hblank
      rw [Bool.not_eq_false] at hblank
      obtain ⟨r, hr, hfirst, hlast⟩ := inRanges_iff.1 hblank
      have hdisjoint := List.all_eq_true.1 (List.all_eq_true.1 hapart r hr) w hw
      rw [Bool.or_eq_true, Nat.blt_eq, Nat.blt_eq] at hdisjoint
      omega
    · rw [beq_iff_eq] at hunderscore
      subst hunderscore
      exact absurd (by decide) hsmall

theorem lt_halfPlane_of_isWordChar {c : Char} : isWordChar c = true → c.toNat < halfPlane := by
  intro hword
  by_cases hascii : c.toNat < 128
  · exact Nat.lt_trans hascii (by decide)
  · rw [isWordChar, Bool.or_eq_true, isAlphanumeric, if_neg hascii] at hword
    rcases hword with hletter | hunderscore
    · obtain ⟨r, hr, _, hlast⟩ := inRanges_iff.1 hletter
      obtain ⟨_, hplane⟩ := wordRanges_valid r hr
      rw [halfPlane]
      omega
    · rw [beq_iff_eq] at hunderscore
      subst hunderscore
      decide

end Text
end ApiView
