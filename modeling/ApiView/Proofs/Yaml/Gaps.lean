import ApiView.Proofs.Yaml.Positions
import ApiView.Yaml.Token

/-!
# Gaps — what is skipped between tokens

Between brackets a gap means nothing, however many lines it goes over.  The scanner skips gaps in front of
a token; behind a plain scalar the scalar itself looks for more lines and then gives up:

* `skipBlanks_of_gap`: a gap in front of a token;
* `Plain.spaces_of_gap`: a gap behind a plain scalar;
* `Plain.read_of_gap`: a plain scalar with the gap behind it.
-/

namespace ApiView
namespace Yaml

variable {gap tail : List Char}

theorem Gap.drop (h : Gap gap) (n : Nat) : Gap (gap.drop n) :=
  fun c hc => h c (List.mem_of_mem_drop hc)

/-- What follows a row of spaces in a gap is no space and no comment. -/
theorem head_of_more {more : List Char} (htail : Firm tail)
    (hmore : more = [] ∨ ∃ x rest, more = x :: rest ∧ (x = '\n' ∨ x = '\r')) :
    ∀ x ∈ (more ++ tail).head?, x ≠ ' ' ∧ x ≠ '#' := by
  rcases hmore with rfl | ⟨y, rest, rfl, hy⟩
  · intro x hx
    exact ⟨(htail.head x hx).space, (htail.head x hx).comment⟩
  · intro x hx
    cases hx
    rcases hy with rfl | rfl <;> decide

namespace Scanner

/-- A gap in front of a token is skipped.  A key that was possible stays possible. -/
theorem skipBlanks_of_gap {s : Scanner} (hrest : s.cursor.rest = gap ++ tail) (hgap : Gap gap)
    (htail : Firm tail) {fuel : Nat} (hfuel : gap.length < fuel) :
    ∃ k, s.skipBlanks fuel = { s with cursor := s.cursor.advanceBy gap.length, keyAllowed := k } ∧
      (s.keyAllowed = true → k = true) := by
  induction fuel generalizing s gap with
  | zero =>
      cases hfuel
  | succ fuel ih =>
      obtain ⟨spaces, more, rfl, hspaces, hmore, hnext⟩ := hgap.cases
      rw [List.append_assoc] at hrest
      have hhead := head_of_more htail hnext
      have hspan := Cursor.span_of_append (p := (· == ' ')) hrest
        (fun x hx => by rw [hspaces x hx]; rfl) (fun x hx => by simpa using (hhead x hx).1)
      have hafter := Cursor.rest_advanceBy_append hrest
      have hcomment : (s.cursor.advanceBy spaces.length).skipComment =
          s.cursor.advanceBy spaces.length := by
        refine if_neg ?_
        have hpeek := Cursor.peek_of_all (c := s.cursor.advanceBy spaces.length) (p := (· ≠ '#'))
          (by decide) (by rw [hafter]; exact fun x hx => (hhead x hx).2)
        simpa using hpeek
      rw [skipBlanks]
      simp only [Cursor.skip, hspan, hcomment]
      rcases hnext with rfl | ⟨x, rest, rfl, hx⟩
      · have hunbroken := Cursor.lineBreak_of_unbroken (c := s.cursor.advanceBy spaces.length)
          (by rw [hafter]; exact fun x hx => (htail.head x hx).unbroken)
        rw [hunbroken, List.append_nil]
        exact ⟨s.keyAllowed, rfl, id⟩
      · obtain ⟨br, n, hbreak, hbr, hn, hle⟩ := Cursor.lineBreak_of_gap hafter hx htail
        obtain ⟨b, br, rfl⟩ := List.exists_cons_of_ne_nil hbr
        rw [hbreak]
        dsimp only
        -- The line break takes a part of the gap, and the rest of the gap is skipped in the next round.
        have hleft : ((s.cursor.advanceBy spaces.length).advanceBy n).rest = (x :: rest).drop n ++ tail := by
          rw [Cursor.rest_advanceBy, hafter, List.drop_append_of_le_length hle]
        obtain ⟨k, hskip, hk⟩ := ih (s := { s with
            cursor := (s.cursor.advanceBy spaces.length).advanceBy n
            keyAllowed := s.keyAllowed || !s.inFlow }) hleft (hmore.drop n)
          (by rw [List.length_append] at hfuel; rw [List.length_drop]; omega)
        refine ⟨k, ?_, fun hkey => hk (by simp [hkey])⟩
        rw [hskip]
        simp only [Cursor.advanceBy_advanceBy, List.length_drop, List.length_append]
        rw [show spaces.length + n + ((x :: rest).length - n) = spaces.length + (x :: rest).length by omega]

end Scanner

namespace Plain

variable {c : Cursor}

/-- What may follow a plain scalar in brackets begins no mark between documents. -/
def endsPlain (c : Char) : Bool :=
  c == ',' || c == ']' || c == '\x7d'

theorem endsPlain_firm {x : Char} (h : endsPlain x = true) : isFirm x = true ∧ x ≠ '-' ∧ x ≠ '.' := by
  simp only [endsPlain, Bool.or_eq_true, beq_iff_eq] at h
  rcases h with (rfl | rfl) | rfl <;> decide

theorem atDocumentMark_of_gap {x : Char} (hrest : c.rest = gap ++ x :: tail) (hgap : Gap gap)
    (hx : endsPlain x = true) : c.atDocumentMark = false := by
  refine Cursor.atDocumentMark_of_head ?_
  rw [hrest]
  cases gap with
  | nil =>
      intro y hy
      cases hy
      exact (endsPlain_firm hx).2
  | cons y gap =>
      intro z hz
      cases hz
      rcases hgap y List.mem_cons_self with rfl | rfl | rfl <;> decide

/-- The line breaks in a gap are passed to its end. -/
theorem breaks_of_gap {x : Char} (hrest : c.rest = gap ++ x :: tail) (hgap : Gap gap)
    (hx : endsPlain x = true) {fuel : Nat} (hfuel : gap.length < fuel) :
    ∃ more, breaks fuel c = (some more, c.advanceBy gap.length) := by
  have hfirm := (endsPlain_firm hx).1
  have hchar := FirmChar.of_isFirm hfirm
  induction fuel generalizing c gap with
  | zero =>
      cases hfuel
  | succ fuel ih =>
      cases gap with
      | nil =>
          have hpeek : (c.peek == ' ') = false := by
            rw [Cursor.peek_cons hrest]
            simpa using hchar.space
          have hunbroken := Cursor.lineBreak_of_unbroken (c := c)
            (by rw [hrest]; exact fun y hy => by cases hy; exact hchar.unbroken)
          rw [breaks]
          simp only [hpeek, hunbroken, Bool.false_eq_true, if_false]
          exact ⟨[], rfl⟩
      | cons y gap =>
          obtain ⟨hy, hgap'⟩ := List.forall_mem_cons.1 hgap
          rcases hy with rfl | hy
          · have hadvance : c.advance.rest = gap ++ x :: tail := by
              rw [Cursor.rest_advance, hrest]
              rfl
            obtain ⟨more, hmore⟩ := ih hadvance hgap' (Nat.lt_of_succ_lt_succ hfuel)
            rw [breaks]
            simp only [Cursor.peek_cons hrest, beq_self_eq_true, if_true, hmore]
            exact ⟨more, rfl⟩
          · obtain ⟨br, n, hlineBreak, hbr, hn, hle⟩ :=
              Cursor.lineBreak_of_gap hrest hy (.cons hfirm tail)
            obtain ⟨b, br, rfl⟩ := List.exists_cons_of_ne_nil hbr
            have hpeek : (c.peek == ' ') = false := by
              rw [Cursor.peek_cons hrest]
              rcases hy with rfl | rfl <;> rfl
            have hleft : (c.advanceBy n).rest = (y :: gap).drop n ++ x :: tail := by
              rw [Cursor.rest_advanceBy, hrest, List.drop_append_of_le_length hle]
            have hmark := atDocumentMark_of_gap hleft (hgap.drop n) hx
            obtain ⟨more, hmore⟩ := ih hleft (hgap.drop n) (by rw [List.length_drop]; omega)
            rw [breaks]
            simp only [hpeek, hlineBreak, hmark, hmore, Bool.false_eq_true, if_false]
            rw [Cursor.advanceBy_advanceBy, List.length_drop, Nat.add_sub_cancel' hle]
            exact ⟨_, rfl⟩

/-- Behind a plain scalar the whole gap is taken. -/
theorem spaces_of_gap {x : Char} (hrest : c.rest = gap ++ x :: tail) (hgap : Gap gap)
    (hx : endsPlain x = true) :
    ∃ between broken, spaces c = (between, broken, c.advanceBy gap.length) := by
  have hfirm := (endsPlain_firm hx).1
  have htail := Firm.cons hfirm tail
  obtain ⟨row, more, rfl, hrow, hmore, hnext⟩ := hgap.cases
  rw [List.append_assoc] at hrest
  have hhead := head_of_more htail hnext
  have hspan := Cursor.span_of_append (p := (· == ' ')) hrest
    (fun y hy => by rw [hrow y hy]; rfl) (fun y hy => by simpa using (hhead y hy).1)
  have hafter := Cursor.rest_advanceBy_append hrest
  unfold spaces
  simp only [hspan]
  -- Behind the blanks of the first line the gap ends, or a line break begins.
  rcases hnext with rfl | ⟨y, rest, rfl, hy⟩
  · have hunbroken := Cursor.lineBreak_of_unbroken (c := c.advanceBy row.length)
      (by rw [hafter]; exact fun y hy => (htail.head y hy).unbroken)
    rw [hunbroken, List.append_nil]
    exact ⟨row, false, rfl⟩
  · obtain ⟨br, n, hlineBreak, hbr, hn, hle⟩ := Cursor.lineBreak_of_gap hafter hy htail
    obtain ⟨b, br, rfl⟩ := List.exists_cons_of_ne_nil hbr
    -- A line break may take two characters, and the rest of the gap is one again.
    have hleft : ((c.advanceBy row.length).advanceBy n).rest = (y :: rest).drop n ++ x :: tail := by
      rw [Cursor.rest_advanceBy, hafter, List.drop_append_of_le_length hle]
    have hmark := atDocumentMark_of_gap hleft (hmore.drop n) hx
    have hfuel : ((y :: rest).drop n).length < ((c.advanceBy row.length).advanceBy n).rest.length + 1 := by
      rw [hleft, List.length_append]
      omega
    obtain ⟨breaks, hbreaks⟩ := breaks_of_gap hleft (hmore.drop n) hx hfuel
    have hend : ((c.advanceBy row.length).advanceBy n).advanceBy ((y :: rest).drop n).length =
        c.advanceBy (row ++ y :: rest).length := by
      rw [Cursor.advanceBy_advanceBy, Cursor.advanceBy_advanceBy, List.length_drop, List.length_append]
      congr 1
      omega
    simp only [hlineBreak, hmark, hbreaks, hend, Bool.false_eq_true, if_false]
    exact ⟨_, _, rfl⟩

/-! ## Plain scalars -/

/-- A character that a plain scalar goes on over, whatever follows. -/
def passes (c : Char) : Bool :=
  !(isGap c || c == ':' || c == '?' || c == ',' || c == '[' || c == ']' || c == '\x7b' || c == '\x7d')

/-- A plain scalar stops at a gap with its end behind it. -/
theorem runLength_of_gap {text : List Char} {x : Char} (htext : ∀ c ∈ text, passes c = true)
    (hgap : Gap gap) (hx : endsPlain x = true) :
    runLength true (text ++ (gap ++ x :: tail)) = text.length := by
  induction text with
  | nil =>
      -- Whatever comes behind it, a blank or a mark ends the run.
      have hstop : ∀ y next, (y = ' ' ∨ y = '\n' ∨ y = '\r' ∨ endsPlain y = true) →
          stops true y next = true := by
        intro y next hy
        simp only [endsPlain, Bool.or_eq_true, beq_iff_eq] at hy
        rcases hy with rfl | rfl | rfl | (rfl | rfl) | rfl <;> rfl
      cases gap with
      | nil =>
          simp [runLength, hstop x _ (.inr (.inr (.inr hx)))]
      | cons y gap =>
          have hy := hgap y List.mem_cons_self
          have hy' : y = ' ' ∨ y = '\n' ∨ y = '\r' ∨ endsPlain y = true := by
            rcases hy with hy | hy | hy
            · exact .inl hy
            · exact .inr (.inl hy)
            · exact .inr (.inr (.inl hy))
          simp [runLength, hstop y _ hy']
  | cons y text ih =>
      obtain ⟨hy, htext⟩ := List.forall_mem_cons.1 htext
      have hgo : ∀ next, stops true y next = false := by
        intro next
        simp only [passes, Bool.not_eq_true', Bool.or_eq_false_iff, beq_eq_false_iff_ne] at hy
        simp [stops, hy]
      simp [runLength, hgo, ih htext]

/-- A plain scalar between brackets is its text, and the gap behind it is taken as well. -/
theorem read_of_gap {text : List Char} {x : Char} (indent : Int) (hne : text ≠ [])
    (hcomment : text.head? ≠ some '#') (htext : ∀ c ∈ text, passes c = true) (hgap : Gap gap)
    (hx : endsPlain x = true) (hrest : c.rest = text ++ (gap ++ x :: tail)) :
    ∃ broken, Plain.read true indent c =
      (text, broken, c.advanceBy (text.length + gap.length)) := by
  have hafter := Cursor.rest_advanceBy_append hrest
  obtain ⟨between, broken, hspaces⟩ := spaces_of_gap hafter hgap hx
  have hlast : (c.advanceBy (text.length + gap.length)).rest = x :: tail := by
    rw [← Cursor.advanceBy_advanceBy]
    exact Cursor.rest_advanceBy_append hafter
  have hxcomment : x ≠ '#' := (FirmChar.of_isFirm (endsPlain_firm hx).1).comment
  have hpeek : (c.peek == '#') = false := by
    obtain ⟨y, more, rfl⟩ := List.exists_cons_of_ne_nil hne
    rw [Cursor.peek_cons hrest]
    simpa using hcomment
  have hpeek' : ((c.advanceBy (text.length + gap.length)).peek == '#') = false := by
    rw [Cursor.peek_cons hlast]
    simpa using hxcomment
  have hlength : runLength true c.rest = text.length := by
    rw [hrest, runLength_of_gap htext hgap hx]
  have hpositive : (text.length == 0) = false := by simpa using hne
  have htaken : c.rest.take text.length = text := by rw [hrest, List.take_left]
  have hnext : runLength true (c.advanceBy (text.length + gap.length)).rest = 0 := by
    have hnone : ∀ c ∈ ([] : List Char), passes c = true := nofun
    have hnogap : Gap [] := nofun
    rw [hlast]
    exact runLength_of_gap hnone hnogap hx
  -- The scalar ends either at once, or in the next round, which finds no more text.
  have hround : ∀ between broken fuel, parts true (indent + 1) between broken (fuel + 1)
      (c.advanceBy (text.length + gap.length)) =
        ([], broken, c.advanceBy (text.length + gap.length)) := by
    intro between broken fuel
    rw [parts]
    simp [hpeek', hnext]
  obtain ⟨fuel, hfuel⟩ : ∃ fuel, c.rest.length = fuel + 1 := by
    obtain ⟨y, more, rfl⟩ := List.exists_cons_of_ne_nil hne
    exact ⟨_, by rw [hrest]; rfl⟩
  rw [Cursor.advanceBy_advanceBy] at hspaces
  unfold Plain.read
  rw [parts, hlength, hfuel]
  simp only [hpeek, hpositive, htaken, hspaces, hpeek', hround, Bool.false_eq_true, if_false, Bool.not_true,
    Bool.false_and, Bool.or_false, List.nil_append, List.append_nil, ite_self]
  exact ⟨broken, rfl⟩

end Plain
end Yaml
end ApiView
