import ApiView.Text.Halves

/-!
# Whole — texts without halves of pairs

A mark at the end of a text guards whatever character comes next, so putting texts together may change
how they are read.  It never makes halves, though, where the texts are separated:

* `NoHalf`: a row of characters that holds no half of a pair;
* `NoHalf.append`: rows stay without halves if the second can be read one character later, too;
* `isWhole_quoted`: whole texts with commas between them, in quotes.
-/

namespace ApiView
namespace Text

/-! ## Rows of characters -/

/-- A row of characters that holds no half of a pair. -/
def NoHalf (cs : List Char) : Prop :=
  ∀ n ∈ codes cs, isHalf n = false

theorem isWhole_iff (s : String) : isWhole s = true ↔ NoHalf s.toList := by
  simp [isWhole, NoHalf]

/-- A character is never a half itself. -/
theorem isHalf_toNat (c : Char) : isHalf c.toNat = false := by
  have hvalid : c.toNat.isValidChar := c.valid
  unfold isHalf
  rcases hvalid with hlow | ⟨hhigh, _⟩
  · simp; omega
  · simp; omega

theorem codes_cons_of_ne {c : Char} (hc : c ≠ guardMark) (rest : List Char) :
    codes (c :: rest) = unit c :: codes rest := by
  cases rest with
  | nil =>
      rfl
  | cons d rest =>
      simp [codes, hc]

namespace NoHalf

/-- A mark guards whatever comes next. -/
@[simp]
theorem guardMark_cons_iff (c : Char) (rest : List Char) :
    NoHalf (guardMark :: c :: rest) ↔ NoHalf rest := by
  simp [NoHalf, codes, isHalf_toNat]

theorem cons_iff {c : Char} (hc : c ≠ guardMark) (rest : List Char) :
    NoHalf (c :: rest) ↔ isHalf (unit c) = false ∧ NoHalf rest := by
  simp [NoHalf, codes_cons_of_ne hc]

/-- What follows a row may lose its first character to a mark at the end of the row. -/
theorem append {cs rest : List Char} :
    NoHalf cs → NoHalf rest → NoHalf rest.tail → NoHalf (cs ++ rest) := by
  intro hcs hrest htail
  induction cs using codes.induct with
  | case1 =>
      exact hrest
  | case2 c =>
      by_cases hc : c = guardMark
      · cases rest with
        | nil =>
            exact hcs
        | cons d rest =>
            subst hc
            exact (guardMark_cons_iff d rest).2 htail
      · exact (cons_iff hc rest).2 ⟨((cons_iff hc []).1 hcs).1, hrest⟩
  | case3 c d cs hc ih =>
      obtain rfl : c = guardMark := by simpa using hc
      exact (guardMark_cons_iff d _).2 (ih ((guardMark_cons_iff d cs).1 hcs))
  | case4 c d cs hc ih =>
      have hne : c ≠ guardMark := by simpa using hc
      rcases (cons_iff hne (d :: cs)).1 hcs with ⟨hunit, hcs'⟩
      exact (cons_iff hne _).2 ⟨hunit, ih hcs'⟩

/-- An ASCII character in front changes nothing. -/
theorem cons_ascii_iff {c : Char} (hc : c.toNat < 128) (rest : List Char) :
    NoHalf (c :: rest) ↔ NoHalf rest := by
  have hne : c ≠ guardMark := by
    rintro rfl
    exact absurd hc (by decide)
  have hsub : c.toNat - halfPlane = 0 := Nat.sub_eq_zero_of_le (by unfold halfPlane; omega)
  have hunit : unit c = c.toNat := by
    simp [unit, half?, hsub, isHalf]
  rw [cons_iff hne, hunit]
  simp [isHalf_toNat]

/-- Rows with commas between them and a quote behind. -/
theorem intercalate {rows : List (List Char)} :
    (∀ cs ∈ rows, NoHalf cs) → NoHalf ([',', ' '].intercalate rows ++ ['\'']) := by
  have hquote : NoHalf ['\''] := by
    unfold NoHalf
    decide
  intro hrows
  induction rows with
  | nil =>
      exact hquote
  | cons cs rest ih =>
      have hcs := hrows cs (List.mem_cons_self ..)
      have hrest := ih fun ds hmem => hrows ds (List.mem_cons_of_mem _ hmem)
      cases rest with
      | nil =>
          rw [List.intercalate_singleton]
          exact hcs.append hquote (by simp [NoHalf, codes])
      | cons ds rest =>
          -- The comma may be lost to a mark, the blank behind it may not.
          rw [List.intercalate_cons_cons, List.append_assoc, List.append_assoc]
          have hblank := (cons_ascii_iff (c := ' ') (by decide) _).2 hrest
          exact hcs.append ((cons_ascii_iff (by decide) _).2 hblank) hblank

end NoHalf

/-! ## Lists of texts -/

/-- Whole texts with commas between them, in quotes. -/
theorem isWhole_quoted {texts : List String} :
    (∀ t ∈ texts, isWhole t = true) → isWhole ("'" ++ ", ".intercalate texts ++ "'") = true := by
  intro hwhole
  rw [isWhole_iff, String.append_assoc, String.toList_append, String.toList_append,
    String.toList_intercalate]
  refine (NoHalf.cons_ascii_iff (by decide) _).2 (NoHalf.intercalate ?_)
  intro cs hcs
  rcases List.mem_map.1 hcs with ⟨t, ht, rfl⟩
  exact (isWhole_iff t).1 (hwhole t ht)

end Text
end ApiView
