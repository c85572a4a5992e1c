import ApiView.Proofs.Schema.Precedence

/-!
# Closed — texts that keep to themselves

A text that closes whatever it opens can stand anywhere in a type without a change to how the rest is read.
What is put together of such texts is of that kind again, and a bar in it that parts the whole is a bar that
parts one of them:

* `Splits`: whether a bar parts a text, which is then read as a union;
* `IsClosed`: the text ends at the depth it began at, and no bar in it gets outside of the brackets that it
  stands in;
* `IsSolid`: a closed text that no bar parts;
* `isSolid_of_plain`, `IsClosed.bracketed`, `KeepsLiteral.quoted`: names, brackets and literals are solid;
* `IsClosed.intercalate`, `splits_intercalate`: closed texts with a closed separator in between.
-/

namespace ApiView
namespace TypeText

open Place

variable {p : Place} {c : Char} {cs xs ys : List Char} {depth : Nat}

/-! ## Bars -/

/-- A bar parts a text that is read from a place on. -/
def Splits (p : Place) (cs : List Char) : Prop :=
  1 < (partsFrom '|' p cs).length

theorem readsAsUnion_iff {type : String} : ReadsAsUnion type ↔ Splits start type.toList := by
  rw [ReadsAsUnion, reading, List.length_map, Splits]

theorem not_splits_nil (p : Place) : ¬ Splits p [] :=
  Nat.lt_irrefl 1

/-- A bar counts where no bracket and no literal is open. -/
theorem splits_cons : Splits p (c :: cs) ↔ (p = start ∧ c = '|') ∨ Splits (p.next c) cs := by
  have hpositive := List.length_pos_iff.2 (partsFrom_ne_nil '|' p cs)
  unfold Splits
  rw [partsFrom]
  split
  · rename_i hcut
    simp only [hcut, and_self, true_or, iff_true, List.length_cons]
    rw [hcut.1] at hpositive
    omega
  · rename_i hcut
    rw [List.length_modifyHead, or_iff_right hcut]

/-- A bar that parts two texts together parts one of them. -/
theorem splits_append : Splits p (xs ++ ys) ↔ Splits p xs ∨ Splits (p.walk xs) ys := by
  have hleft := partsFrom_ne_nil '|' p xs
  have hright := partsFrom_ne_nil '|' (p.walk xs) ys
  have hlength := length_glue hleft hright
  have hpositive := List.length_pos_iff.2 hleft
  have hpositive' := List.length_pos_iff.2 hright
  unfold Splits
  rw [partsFrom_append (by decide)]
  omega

/-! ## Closed and solid texts -/

/-- A text that closes what it opens: it ends at the depth it began at, and no bar in it gets outside of the
brackets around it. -/
structure IsClosed (cs : List Char) : Prop where
  walk (depth : Nat) : (outside depth).walk cs = outside depth
  inside (depth : Nat) : ¬ Splits (outside (depth + 1)) cs

/-- A closed text that no bar parts. -/
structure IsSolid (cs : List Char) : Prop extends IsClosed cs where
  whole : ¬ Splits start cs

/-- A solid text is split nowhere. -/
theorem IsSolid.not_splits (h : IsSolid cs) (depth : Nat) : ¬ Splits (outside depth) cs := by
  cases depth with
  | zero =>
      exact h.whole
  | succ depth =>
      exact h.inside depth

/-- What is solid leaves every place as it was, and is not split there. -/
theorem IsSolid.intro (hwalk : ∀ depth, (outside depth).walk cs = outside depth)
    (hsplits : ∀ depth, ¬ Splits (outside depth) cs) : IsSolid cs where
  walk := hwalk
  inside depth := hsplits (depth + 1)
  whole := hsplits 0

theorem isSolid_nil : IsSolid [] :=
  IsSolid.intro (fun _ => rfl) (fun _ => not_splits_nil _)

/-- Closed texts in a row are closed. -/
theorem IsClosed.append (hxs : IsClosed xs) (hys : IsClosed ys) : IsClosed (xs ++ ys) where
  walk depth := by
    rw [walk_append, hxs.walk, hys.walk]
  inside depth := by
    rw [splits_append, hxs.walk]
    exact not_or.2 ⟨hxs.inside depth, hys.inside depth⟩

/-- Solid texts in a row are solid. -/
theorem IsSolid.append (hxs : IsSolid xs) (hys : IsSolid ys) : IsSolid (xs ++ ys) where
  toIsClosed := hxs.toIsClosed.append hys.toIsClosed
  whole := by
    rw [splits_append, hxs.walk]
    exact not_or.2 ⟨hxs.whole, hys.whole⟩

/-! ## Names -/

/-- A character that neither opens nor closes anything and is no bar. -/
def isPlain (c : Char) : Bool :=
  !(isQuote c || isOpening c || isClosing c || c == '|')

/-- A text of plain characters. -/
def arePlain (cs : List Char) : Bool :=
  cs.all isPlain

/-- A plain character changes no place. -/
theorem next_of_isPlain (hc : isPlain c = true) (depth : Nat) :
    (outside depth).next c = outside depth := by
  simp only [isPlain, Bool.not_eq_true', Bool.or_eq_false_iff] at hc
  obtain ⟨⟨⟨hquote, hopening⟩, hclosing⟩, -⟩ := hc
  simp only [Place.next, hquote, hopening, hclosing, Bool.false_eq_true, if_false]

theorem ne_bar_of_isPlain (hc : isPlain c = true) : c ≠ '|' := by
  rintro rfl
  cases hc

theorem IsSolid.cons (hc : isPlain c = true) (hcs : IsSolid cs) : IsSolid (c :: cs) := by
  refine IsSolid.intro (fun depth => ?_) (fun depth => ?_)
  · rw [walk_cons, next_of_isPlain hc, hcs.walk]
  · rw [splits_cons, next_of_isPlain hc]
    exact not_or.2 ⟨fun hbar => ne_bar_of_isPlain hc hbar.2, hcs.not_splits depth⟩

/-- A text of plain characters is solid. -/
theorem isSolid_of_plain (h : arePlain cs = true) : IsSolid cs := by
  induction cs with
  | nil =>
      exact isSolid_nil
  | cons c cs ih =>
      rw [arePlain, List.all_cons, Bool.and_eq_true] at h
      exact IsSolid.cons h.1 (ih h.2)

/-! ## Brackets -/

theorem next_of_isOpening (hc : isOpening c = true) : (outside depth).next c = outside (depth + 1) := by
  simp only [isOpening, Bool.or_eq_true, beq_iff_eq] at hc
  rcases hc with ((rfl | rfl) | rfl) | rfl
  all_goals
    rfl

theorem next_of_isClosing (hc : isClosing c = true) : (outside (depth + 1)).next c = outside depth := by
  simp only [isClosing, Bool.or_eq_true, beq_iff_eq] at hc
  rcases hc with ((rfl | rfl) | rfl) | rfl
  all_goals
    rfl

/-- Between brackets a closed text is solid, as no bar in it gets outside of them. -/
theorem IsClosed.bracketed {opening closing : Char} (hopening : isOpening opening = true)
    (hclosing : isClosing closing = true) (h : IsClosed cs) :
    IsSolid (opening :: (cs ++ [closing])) := by
  have hfirst : opening ≠ '|' := by
    rintro rfl
    cases hopening
  have hlast : closing ≠ '|' := by
    rintro rfl
    cases hclosing
  refine IsSolid.intro (fun depth => ?_) (fun depth => ?_)
  · rw [walk_cons, next_of_isOpening hopening, walk_append, h.walk, walk_cons,
      next_of_isClosing hclosing, walk_nil]
  · -- Inside the depth is at least one, whatever it is outside.
    rw [splits_cons, next_of_isOpening hopening, splits_append, h.walk, splits_cons]
    rintro (hbar | hcs | hbar | hnil)
    · exact hfirst hbar.2
    · exact h.inside depth hcs
    · exact hlast hbar.2
    · exact not_splits_nil _ hnil

/-! ## Literals -/

/-- A text that stays inside of the literal that it stands in. -/
structure KeepsLiteral (quote : Char) (cs : List Char) : Prop where
  walk (depth : Nat) : (literal depth quote).walk cs = literal depth quote
  whole (depth : Nat) : ¬ Splits (literal depth quote) cs

namespace KeepsLiteral

variable {quote : Char}

theorem nil : KeepsLiteral quote [] where
  walk _ := rfl
  whole _ := not_splits_nil _

theorem append (hxs : KeepsLiteral quote xs) (hys : KeepsLiteral quote ys) :
    KeepsLiteral quote (xs ++ ys) where
  walk depth := by
    rw [walk_append, hxs.walk, hys.walk]
  whole depth := by
    rw [splits_append, hxs.walk]
    exact not_or.2 ⟨hxs.whole depth, hys.whole depth⟩

theorem flatMap {α : Type} {pieceOf : α → List Char} (h : ∀ a, KeepsLiteral quote (pieceOf a))
    (row : List α) : KeepsLiteral quote (row.flatMap pieceOf) := by
  induction row with
  | nil =>
      exact nil
  | cons a rest ih =>
      rw [List.flatMap_cons]
      exact (h a).append ih

/-- A character that is neither the quote nor a backslash. -/
theorem cons (hquote : c ≠ quote) (hbackslash : c ≠ '\\') (hcs : KeepsLiteral quote cs) :
    KeepsLiteral quote (c :: cs) := by
  have hnext : ∀ depth, (literal depth quote).next c = literal depth quote := by
    intro depth
    simp only [Place.next, beq_iff_eq, hbackslash, hquote, if_false]
  constructor
  · intro depth
    rw [walk_cons, hnext, hcs.walk]
  · intro depth
    rw [splits_cons, hnext]
    exact not_or.2 ⟨fun hbar => Place.noConfusion hbar.1, hcs.whole depth⟩

/-- Characters that are neither the quote nor a backslash. -/
theorem of_forall (h : ∀ c ∈ cs, c ≠ quote ∧ c ≠ '\\') : KeepsLiteral quote cs := by
  induction cs with
  | nil =>
      exact nil
  | cons c cs ih =>
      obtain ⟨hc, hcs⟩ := List.forall_mem_cons.1 h
      exact cons hc.1 hc.2 (ih hcs)

/-- A character behind a backslash, whichever it is. -/
theorem escaped (c : Char) (hcs : KeepsLiteral quote cs) : KeepsLiteral quote ('\\' :: c :: cs) where
  walk depth := hcs.walk depth
  whole depth := by
    rw [splits_cons, splits_cons]
    rintro (hbar | hbar | hrest)
    · cases hbar.1
    · cases hbar.1
    · exact hcs.whole depth hrest

/-- A literal is solid. -/
theorem quoted (hquote : isQuote quote = true) (h : KeepsLiteral quote cs) :
    IsSolid (quote :: (cs ++ [quote])) := by
  have hopen : ∀ depth, (outside depth).next quote = literal depth quote := by
    intro depth
    rw [Place.next, if_pos hquote]
  have hbackslash : quote ≠ '\\' := by
    rintro rfl
    cases hquote
  have hclose : ∀ depth, (literal depth quote).next quote = outside depth := by
    intro depth
    simp only [Place.next, beq_iff_eq, hbackslash, if_false, if_true]
  have hbar : quote ≠ '|' := by
    rintro rfl
    cases hquote
  refine IsSolid.intro (fun depth => ?_) (fun depth => ?_)
  · rw [walk_cons, hopen, walk_append, h.walk, walk_cons, hclose, walk_nil]
  · rw [splits_cons, hopen, splits_append, h.walk, splits_cons]
    rintro (hfirst | hcs | hlast | hnil)
    · exact hbar hfirst.2
    · exact h.whole depth hcs
    · exact hbar hlast.2
    · exact not_splits_nil _ hnil

end KeepsLiteral

/-! ## Rows of texts -/

section Rows

variable {separator : List Char} {texts : List (List Char)}

/-- Closed texts with a closed separator in between are closed. -/
theorem IsClosed.intercalate (hseparator : IsClosed separator)
    (htexts : ∀ text ∈ texts, IsClosed text) : IsClosed (separator.intercalate texts) := by
  induction texts with
  | nil =>
      exact isSolid_nil.toIsClosed
  | cons text rest ih =>
      obtain ⟨htext, hrest⟩ := List.forall_mem_cons.1 htexts
      cases rest with
      | nil =>
          rwa [List.intercalate_singleton]
      | cons next rest =>
          rw [List.intercalate_cons_cons]
          exact (htext.append hseparator).append (ih hrest)

/-- A bar that parts several texts with a separator in between is one of the separator or of a text. -/
theorem splits_intercalate (hseparator : IsClosed separator)
    (htexts : ∀ text ∈ texts, IsClosed text) :
    Splits start (separator.intercalate texts) ↔
      1 < texts.length ∧ Splits start separator ∨ ∃ text ∈ texts, Splits start text := by
  induction texts with
  | nil =>
      simp [not_splits_nil]
  | cons text rest ih =>
      obtain ⟨htext, hrest⟩ := List.forall_mem_cons.1 htexts
      cases rest with
      | nil =>
          simp [List.intercalate_singleton]
      | cons next rest =>
          have hlonger : 1 < (text :: next :: rest).length := by
            simp only [List.length_cons]
            omega
          -- The rest is read from depth zero again, as the text and the separator are closed.
          rw [List.intercalate_cons_cons, splits_append, splits_append, walk_append, htext.walk,
            hseparator.walk, ih hrest, List.exists_mem_cons_iff (a := text)]
          constructor
          · rintro ((hsplit | hsplit) | ⟨-, hsplit⟩ | hsplit)
            · exact Or.inr (Or.inl hsplit)
            · exact Or.inl ⟨hlonger, hsplit⟩
            · exact Or.inl ⟨hlonger, hsplit⟩
            · exact Or.inr (Or.inr hsplit)
          · rintro (⟨-, hsplit⟩ | hsplit | hsplit)
            · exact Or.inl (Or.inr hsplit)
            · exact Or.inl (Or.inl hsplit)
            · exact Or.inr (Or.inr hsplit)

theorem IsSolid.intercalate (hseparator : IsSolid separator)
    (htexts : ∀ text ∈ texts, IsSolid text) : IsSolid (separator.intercalate texts) where
  toIsClosed :=
    IsClosed.intercalate hseparator.toIsClosed fun text hmem => (htexts text hmem).toIsClosed
  whole := by
    rw [splits_intercalate hseparator.toIsClosed fun text hmem => (htexts text hmem).toIsClosed]
    rintro (⟨-, hsplit⟩ | ⟨text, hmem, hsplit⟩)
    · exact hseparator.whole hsplit
    · exact (htexts text hmem).whole hsplit

end Rows

end TypeText
end ApiView
