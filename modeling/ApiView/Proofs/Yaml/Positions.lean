import ApiView.Proofs.Json.Numerals
import ApiView.Yaml.ScalarText

/-!
# Positions — a cursor on its way

A cursor moves on by whole runs of characters.  What it moves over decides where it stands afterwards, so
this file says for each way of moving how far it goes:

* `rest_advanceBy`, `advanceBy_of_unbroken`: what is left, and the place on a line;
* `Gap`, `Firm`: blanks that both formats skip, and what may follow them;
* `lineBreak_of_gap`: a line break in a gap;
* `peek_cons`, `span_of_append`: looking ahead.
-/

namespace ApiView
namespace Yaml

/-! ## Gaps -/

/-- Blanks that both formats skip. -/
def Gap (cs : List Char) : Prop :=
  ∀ c ∈ cs, c = ' ' ∨ c = '\n' ∨ c = '\r'

/-- A row of spaces. -/
def Spaces (cs : List Char) : Prop :=
  ∀ c ∈ cs, c = ' '

/-- A character that no reader of gaps passes over: it begins neither a gap nor a comment, and is no byte
order mark. -/
def isFirm (c : Char) : Bool :=
  !(isGap c || c == '#' || c == '\ufeff')

/-- A text that no reader of gaps goes into. -/
def Firm (cs : List Char) : Prop :=
  ∀ c ∈ cs.head?, isFirm c = true

theorem Firm.cons {c : Char} (h : isFirm c = true) (cs : List Char) : Firm (c :: cs) := by
  intro d hd
  cases hd
  exact h

/-- What a firm character is not. -/
structure FirmChar (c : Char) : Prop where
  tab : c ≠ '\t'
  space : c ≠ ' '
  ending : c ≠ endMark
  unbroken : isBreak c = false
  comment : c ≠ '#'
  byteOrderMark : c ≠ '\ufeff'

theorem FirmChar.of_isFirm {c : Char} (h : isFirm c = true) : FirmChar c := by
  simp only [isFirm, isGap, isSpaceOrEnd, isBreakOrEnd, Bool.not_eq_true', Bool.or_eq_false_iff,
    beq_eq_false_iff_ne] at h
  obtain ⟨⟨⟨htab, hspace, hend, hbreak⟩, hcomment⟩, hmark⟩ := h
  exact ⟨htab, hspace, hend, hbreak, hcomment, hmark⟩

theorem Firm.head {cs : List Char} (h : Firm cs) : ∀ c ∈ cs.head?, FirmChar c :=
  fun c hc => .of_isFirm (h c hc)

theorem Spaces.gap {cs : List Char} (h : Spaces cs) : Gap cs :=
  fun c hc => .inl (h c hc)

/-- A gap is spaces, and then nothing or a line break and another gap. -/
theorem Gap.cases {gap : List Char} (h : Gap gap) :
    ∃ spaces more, gap = spaces ++ more ∧ Spaces spaces ∧ Gap more ∧
      (more = [] ∨ ∃ x rest, more = x :: rest ∧ (x = '\n' ∨ x = '\r')) := by
  induction gap with
  | nil =>
      exact ⟨[], [], rfl, nofun, nofun, .inl rfl⟩
  | cons c rest ih =>
      obtain ⟨hc, hrest⟩ := List.forall_mem_cons.1 h
      rcases hc with rfl | hbreak
      · obtain ⟨spaces, more, rfl, hspaces, hmore, hnext⟩ := ih hrest
        exact ⟨' ' :: spaces, more, rfl, List.forall_mem_cons.2 ⟨rfl, hspaces⟩, hmore, hnext⟩
      · exact ⟨[], c :: rest, rfl, nofun, h, .inr ⟨c, rest, rfl, hbreak⟩⟩

namespace Cursor

variable {c : Cursor} {x : Char} {taken left cs gap tail : List Char} {n : Nat}

/-! ## Moving -/

theorem rest_advance (c : Cursor) : c.advance.rest = c.rest.drop 1 := by
  unfold advance
  split
  · rename_i h
    rw [h]
    rfl
  · rename_i h
    rw [h]
    split <;> rfl

theorem rest_advanceBy (c : Cursor) (n : Nat) : (c.advanceBy n).rest = c.rest.drop n := by
  induction n generalizing c with
  | zero =>
      rfl
  | succ n ih =>
      rw [advanceBy, ih, rest_advance, List.drop_drop, Nat.add_comm]

/-- Moving on by the length of a text leaves what is behind it. -/
theorem rest_advanceBy_append (h : c.rest = taken ++ left) : (c.advanceBy taken.length).rest = left := by
  rw [rest_advanceBy, h, List.drop_left]

theorem advanceBy_advanceBy (c : Cursor) (m n : Nat) :
    (c.advanceBy m).advanceBy n = c.advanceBy (m + n) := by
  induction m generalizing c with
  | zero =>
      rw [Nat.zero_add]
      rfl
  | succ m ih =>
      rw [Nat.succ_add, advanceBy, advanceBy, ih]

/-- On the way along a line the index goes up and the line stays. -/
theorem advanceBy_of_unbroken (h : c.rest = taken ++ left) (hline : ∀ x ∈ taken, isBreak x = false) :
    (c.advanceBy taken.length).index = c.index + taken.length ∧
      (c.advanceBy taken.length).line = c.line := by
  induction taken generalizing c with
  | nil =>
      exact ⟨rfl, rfl⟩
  | cons x taken ih =>
      obtain ⟨hx, htaken⟩ := List.forall_mem_cons.1 hline
      have hends : endsLine x (taken ++ left) = false := by
        simp only [isBreak, Bool.or_eq_false_iff] at hx
        simp [endsLine, hx]
      have hstep : c.advance.index = c.index + 1 ∧ c.advance.line = c.line := by
        unfold advance
        rw [h]
        simp [hends]
      have hrest : c.advance.rest = taken ++ left := by
        rw [rest_advance, h]
        rfl
      obtain ⟨hindex, hsame⟩ := ih hrest htaken
      rw [List.length_cons, advanceBy, hindex, hsame, hstep.1, hstep.2]
      exact ⟨by omega, rfl⟩

/-! ## Looking -/

theorem peek_cons (h : c.rest = x :: cs) : c.peek = x := by
  simp [peek, h]

/-- At the end of a text the null character is seen. -/
theorem peek_of_all {p : Char → Prop} (hend : p endMark) (h : ∀ x ∈ c.rest.head?, p x) : p c.peek := by
  unfold peek
  rw [← List.head?_eq_getElem?]
  cases hhead : c.rest.head? with
  | none =>
      exact hend
  | some x =>
      exact h x hhead

/-- A span takes the characters that satisfy its predicate and no more. -/
theorem span_of_append {p : Char → Bool} (h : c.rest = taken ++ left) (htaken : ∀ x ∈ taken, p x = true)
    (hleft : ∀ x ∈ left.head?, p x = false) : c.span p = (taken, c.advanceBy taken.length) := by
  have hspan := Json.span_append htaken hleft
  rw [← h, List.span_eq_takeWhile_dropWhile] at hspan
  unfold span
  rw [(Prod.mk.inj hspan).1]

/-! ## Line breaks -/

theorem lineBreak_of_unbroken (h : ∀ x ∈ c.rest.head?, isBreak x = false) : c.lineBreak = ([], c) := by
  unfold lineBreak
  split
  · rename_i hrest
    rw [hrest] at h
    exact absurd (h _ rfl) (by decide)
  · rename_i x rest _ hrest
    rw [hrest] at h
    have hx := h x rfl
    simp only [isBreak, Bool.or_eq_false_iff] at hx
    simp [hx]
  · rfl

/-- A line break in a gap takes one or two of its characters. -/
theorem lineBreak_of_gap (h : c.rest = x :: cs ++ tail) (hx : x = '\n' ∨ x = '\r') (htail : Firm tail) :
    ∃ br n, c.lineBreak = (br, c.advanceBy n) ∧ br ≠ [] ∧ 0 < n ∧ n ≤ (x :: cs).length := by
  unfold lineBreak
  split
  · rename_i rest hrest
    refine ⟨['\n'], 2, rfl, by simp, by omega, ?_⟩
    -- What follows the gap is no line break.
    cases cs with
    | nil =>
        rw [h] at hrest
        cases hrest
        have hfirm := htail '\n' rfl
        cases hfirm
    | cons y cs =>
        simp
  · rename_i y rest _ hrest
    rw [h] at hrest
    cases hrest
    have hbreak : (x == '\n' || x == '\r' || x == '\x85') = true := by
      rcases hx with rfl | rfl <;> rfl
    rw [if_pos hbreak]
    exact ⟨['\n'], 1, rfl, by simp, by omega, by simp⟩
  · rename_i hrest
    rw [h] at hrest
    cases hrest

/-- Marks of documents begin with a hyphen or a point. -/
theorem atDocumentMark_of_head (h : ∀ x ∈ c.rest.head?, x ≠ '-' ∧ x ≠ '.') :
    c.atDocumentMark = false := by
  -- The first of the next three characters is the one here.
  have hahead : ∀ y ∈ c.ahead.head?, y ≠ '-' ∧ y ≠ '.' := by
    intro y hy
    unfold ahead at hy
    cases hrest : c.rest with
    | nil =>
        rw [hrest] at hy
        cases hy
    | cons z rest =>
        rw [hrest] at hy h
        cases hy
        exact h _ rfl
  unfold atDocumentMark
  rw [Bool.and_eq_false_iff]
  refine .inl ?_
  rw [Bool.or_eq_false_iff, beq_eq_false_iff_ne, beq_eq_false_iff_ne]
  constructor
  · intro hmark
    rw [hmark] at hahead
    exact (hahead '-' rfl).1 rfl
  · intro hmark
    rw [hmark] at hahead
    exact (hahead '.' rfl).2 rfl

end Cursor
end Yaml
end ApiView
