import Mathlib.Data.List.Basic
import ApiView.Proofs.Text.Whole

/-!
# Kept — texts of characters alone

A text is kept as a row of characters in which some have a mark in front of them.  This file singles
out the texts that stand for a row of characters, without halves of pairs:

* `codes_guard`: a row of characters is read back from the way it is kept;
* `codes_of_lt`: below the last plane a row is kept as it is;
* `exists_char_of_mem_codes`: what is read from a text is a character or a half;
* `isProper`, `isProper_iff`: a text that is whole and is kept as its own codes are.
-/

namespace ApiView
namespace Text

/-! ## Single characters -/

theorem toNat_lt (c : Char) : c.toNat < 0x110000 := by
  have hvalid : c.toNat.isValidChar := c.valid
  rcases hvalid with hlow | ⟨_, hhigh⟩
  · omega
  · exact hhigh

/-- A character that needs no mark counts for itself. -/
theorem unit_of_half?_eq_none {c : Char} : half? c = none → unit c = c.toNat := by
  intro h
  rw [unit, h, Option.getD_none]

/-- Only characters of the last plane can be mistaken for halves. -/
theorem half?_eq_none_of_lt {c : Char} : c.toNat < halfPlane → half? c = none := by
  intro h
  have hzero : c.toNat - halfPlane = 0 := Nat.sub_eq_zero_of_le (Nat.le_of_lt h)
  rw [half?, hzero]
  rfl

theorem guarded_of_lt {c : Char} : c.toNat < halfPlane → guarded c = [c] := by
  intro h
  have hmark : c ≠ guardMark := by
    rintro rfl
    exact absurd h (by decide)
  simp [guarded, hmark, half?_eq_none_of_lt h]

theorem ofCode_toNat (c : Char) : ofCode c.toNat = guarded c := by
  simp [ofCode, isHalf_toNat]

/-- What a character counts for is a character, too, unless it is a half. -/
theorem exists_char_of_unit {n : Nat} (c : Char) :
    n = unit c → isHalf n = false → ∃ d : Char, d.toNat = n := by
  intro hn hwhole
  cases hhalf : half? c with
  | none =>
      exact ⟨c, by rw [hn, unit_of_half?_eq_none hhalf]⟩
  | some k =>
      have hunit : n = k := by rw [hn, unit, hhalf, Option.getD_some]
      have hk : isHalf k = true := by
        rw [half?] at hhalf
        by_cases hplane : isHalf (c.toNat - halfPlane) = true
        · rw [if_pos hplane, Option.some.injEq] at hhalf
          rwa [hhalf] at hplane
        · rw [if_neg hplane] at hhalf
          cases hhalf
      rw [hunit, hk] at hwhole
      cases hwhole

/-! ## Rows of characters -/

theorem codes_guarded_append (c : Char) (rest : List Char) :
    codes (guarded c ++ rest) = c.toNat :: codes rest := by
  unfold guarded
  split
  · -- The mark takes the character behind it as it is.
    simp [codes]
  · rename_i hplain
    have hplain' : c ≠ guardMark ∧ half? c = none := by
      simpa using hplain
    obtain ⟨hmark, hhalf⟩ := hplain'
    rw [List.singleton_append, codes_cons_of_ne hmark, unit_of_half?_eq_none hhalf]

/-- A row of characters is read back from the way it is kept. -/
theorem codes_guard (cs : List Char) : codes (guard cs) = cs.map Char.toNat := by
  induction cs with
  | nil =>
      rfl
  | cons c rest ih =>
      have hsplit : guard (c :: rest) = guarded c ++ guard rest := List.flatMap_cons
      rw [hsplit, codes_guarded_append, ih, List.map_cons]

/-- Characters below the last plane are kept as they are. -/
theorem codes_of_lt {cs : List Char} (h : ∀ c ∈ cs, c.toNat < halfPlane) :
    codes cs = cs.map Char.toNat := by
  have hguard : guard cs = cs := by
    induction cs with
    | nil =>
        rfl
    | cons c rest ih =>
        have hc := guarded_of_lt (h c List.mem_cons_self)
        have hrest := ih fun d hd => h d (List.mem_cons_of_mem c hd)
        rw [guard, List.flatMap_cons, hc, ← guard, hrest, List.singleton_append]
  have hcodes := codes_guard cs
  rwa [hguard] at hcodes

theorem noHalf_of_lt {cs : List Char} (h : ∀ c ∈ cs, c.toNat < halfPlane) : NoHalf cs := by
  intro n hn
  rw [codes_of_lt h] at hn
  obtain ⟨c, _, rfl⟩ := List.mem_map.1 hn
  exact isHalf_toNat c

theorem flatMap_ofCode_toNat (cs : List Char) : (cs.map Char.toNat).flatMap ofCode = guard cs := by
  rw [List.flatMap_map]
  exact List.flatMap_congr fun c _ => ofCode_toNat c

/-- What is read from a text and is no half is a character. -/
theorem exists_char_of_mem_codes {cs : List Char} {n : Nat} :
    n ∈ codes cs → isHalf n = false → ∃ c : Char, c.toNat = n := by
  intro hmem hwhole
  induction cs using codes.induct with
  | case1 =>
      cases hmem
  | case2 c =>
      exact exists_char_of_unit c (List.mem_singleton.1 hmem) hwhole
  | case3 c d rest hmark ih =>
      rw [codes, if_pos hmark, List.mem_cons] at hmem
      rcases hmem with rfl | hrest
      · exact ⟨d, rfl⟩
      · exact ih hrest
  | case4 c d rest hmark ih =>
      have hne : c ≠ guardMark := by simpa using hmark
      rw [codes_cons_of_ne hne, List.mem_cons] at hmem
      rcases hmem with hhead | hrest
      · exact exists_char_of_unit c hhead hwhole
      · exact ih hrest

/-! ## Proper texts -/

/-- Whether a text is whole and kept as its own codes are. -/
def isProper (s : String) : Bool :=
  isWhole s && (codes s.toList).flatMap ofCode == s.toList

/-- Proper texts are those that a row of characters is kept as. -/
theorem isProper_iff (s : String) : isProper s = true ↔ ∃ cs, s = String.ofList (guard cs) := by
  rw [isProper, Bool.and_eq_true, isWhole_iff, beq_iff_eq]
  constructor
  · rintro ⟨hwhole, hkept⟩
    -- Each code is that of a character.
    have hchars : ((codes s.toList).map Char.ofNat).map Char.toNat = codes s.toList := by
      rw [List.map_map]
      refine (List.map_congr_left fun n hn => ?_).trans (List.map_id _)
      obtain ⟨c, rfl⟩ := exists_char_of_mem_codes hn (hwhole n hn)
      exact congrArg Char.toNat (Char.ofNat_toNat c)
    refine ⟨(codes s.toList).map Char.ofNat, ?_⟩
    rw [← flatMap_ofCode_toNat, hchars, hkept, String.ofList_toList]
  · rintro ⟨cs, rfl⟩
    rw [String.toList_ofList, codes_guard, flatMap_ofCode_toNat]
    refine ⟨?_, rfl⟩
    intro n hn
    rw [codes_guard] at hn
    obtain ⟨c, _, rfl⟩ := List.mem_map.1 hn
    exact isHalf_toNat c

end Text
end ApiView
