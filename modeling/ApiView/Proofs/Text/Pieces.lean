import Mathlib.Data.List.Basic
import ApiView.Json.Writer
import ApiView.Text.Runs

/-!
# Pieces — runs of characters and the pieces of a text

The library splits a list at the elements of a class.  The longest runs outside of the class are what
lies between, without the empty pieces, so runs can be told apart at any separator:

* `of_mem_splitOnP`: pieces hold what is in the text and in no separator;
* `joinWith_eq_intercalate`, `getLast?_joinWith`: how texts are joined, and how they end;
* `append_cons_cases`, `append_cons_inj`: one text that is parted at a separator in two ways;
* `runsOf_eq_filter`: runs are the pieces that are not empty;
* `flatten_runsAfter`: together they hold every character that may stand in one;
* `runsOf_append_cons`: a separator parts the runs on its left from those on its right;
* `exists_run_of_pos`: a character of a run belongs to one run with whatever stands in front of it.
-/

namespace ApiView
namespace Text

variable {p : Char → Bool} {c : Char} {cs : List Char}

/-! ## Pieces -/

/-- A piece holds characters of the text that part nothing. -/
theorem of_mem_splitOnP {piece : List Char} :
    piece ∈ cs.splitOnP p → ∀ c ∈ piece, c ∈ cs ∧ p c = false := by
  intro h
  induction cs generalizing piece with
  | nil =>
      rw [List.splitOnP_nil, List.mem_singleton] at h
      rw [h]
      exact List.forall_mem_nil _
  | cons d rest ih =>
      obtain ⟨head, tail, hpieces⟩ := List.exists_cons_of_ne_nil (List.splitOnP_ne_nil p rest)
      -- A character that is no separator joins the first piece of the rest.
      have hlater : ∀ piece ∈ head :: tail, ∀ c ∈ piece, c ∈ d :: rest ∧ p c = false := by
        intro piece hpiece c hc
        obtain ⟨hmem, hp⟩ := ih (hpieces ▸ hpiece) c hc
        exact ⟨List.mem_cons_of_mem d hmem, hp⟩
      rw [List.splitOnP_cons_eq_if_modifyHead, hpieces] at h
      split at h
      · rcases List.mem_cons.1 h with rfl | h
        · exact List.forall_mem_nil _
        · exact hlater piece h
      · rename_i hd
        rcases List.mem_cons.1 h with rfl | h
        · refine List.forall_mem_cons.2 ⟨⟨List.mem_cons_self, by simpa using hd⟩, ?_⟩
          exact hlater head List.mem_cons_self
        · exact hlater piece (List.mem_cons_of_mem head h)

/-- No piece of a text holds the separator. -/
theorem notMem_of_mem_splitOn {separator : Char} {piece : List Char} :
    piece ∈ cs.splitOn separator → separator ∉ piece := by
  intro h hmem
  rw [List.splitOn_eq_splitOnP] at h
  have hself := (of_mem_splitOnP h separator hmem).2
  rw [beq_self_eq_true] at hself
  cases hself

theorem joinWith_eq_intercalate (separator : List Char) (texts : List (List Char)) :
    joinWith separator texts = separator.intercalate texts := by
  induction texts using joinWith.induct with
  | case1 =>
      rfl
  | case2 text =>
      rw [joinWith, List.intercalate_singleton]
  | case3 x y rest ih =>
      rw [joinWith, ih, List.intercalate_cons_cons]

/-- Joined texts end like the last of them, if that is not empty. -/
theorem getLast?_joinWith {separator last : List Char} {texts : List (List Char)}
    (hlast : texts.getLast? = some last) (hne : last ≠ []) :
    (joinWith separator texts).getLast? = last.getLast? := by
  induction texts using joinWith.induct with
  | case1 =>
      cases hlast
  | case2 text =>
      cases hlast
      rfl
  | case3 x y rest ih =>
      have hbehind : (y :: rest).getLast? = some last := by simpa using hlast
      have hsome : last.getLast?.isSome = true := by simpa using hne
      rw [joinWith, List.getLast?_append, ih hbehind, Option.or_of_isSome hsome]

/-! ## Two partings of one text -/

section Parting

variable {left right left' right' : List Char}

/-- Two partings of a text are the same, or one of them is made behind the other. -/
theorem append_cons_cases : left ++ c :: right = left' ++ c :: right' →
    (left = left' ∧ right = right') ∨
      (∃ between, left' = left ++ c :: between ∧ right = between ++ c :: right') ∨
        ∃ between, left = left' ++ c :: between ∧ right' = between ++ c :: right := by
  intro h
  -- One of the left parts is longer; what it has more begins with the separator of the other parting.
  rcases List.append_eq_append_iff.1 h with ⟨more, hleft, hright⟩ | ⟨more, hleft, hright⟩
  · cases more with
    | nil =>
        left
        rw [hleft, List.append_nil]
        exact ⟨rfl, (List.cons.inj hright).2⟩
    | cons d more =>
        obtain ⟨rfl, hrest⟩ := List.cons.inj hright
        exact Or.inr (Or.inl ⟨more, hleft, hrest⟩)
  · cases more with
    | nil =>
        left
        rw [hleft, List.append_nil]
        exact ⟨rfl, (List.cons.inj hright).2.symm⟩
    | cons d more =>
        obtain ⟨rfl, hrest⟩ := List.cons.inj hright
        exact Or.inr (Or.inr ⟨more, hleft, hrest⟩)

/-- What holds no separator ends in front of each. -/
theorem prefix_of_notMem (hfree : c ∉ left) :
    left ++ c :: right = left' ++ c :: right' → left <+: left' := by
  intro h
  rcases append_cons_cases h with ⟨rfl, _⟩ | ⟨between, rfl, _⟩ | ⟨between, rfl, _⟩
  · exact List.prefix_refl left
  · exact List.prefix_append left _
  · simp at hfree

/-- A text is parted at its first separator in one way. -/
theorem append_cons_inj (hfree : c ∉ left) (hfree' : c ∉ left') :
    left ++ c :: right = left' ++ c :: right' → left = left' ∧ right = right' := by
  intro h
  rcases append_cons_cases h with hsame | ⟨between, rfl, _⟩ | ⟨between, rfl, _⟩
  · exact hsame
  · simp at hfree'
  · simp at hfree

end Parting

/-! ## Runs -/

/-- What has begun already is put in front of the first piece. -/
theorem runsAfter_eq_filter (p : Char → Bool) (pending cs : List Char) :
    runsAfter p pending cs =
      ((cs.splitOnP fun c => !p c).modifyHead (pending ++ ·)).filter fun run => !run.isEmpty := by
  induction cs generalizing pending with
  | nil =>
      cases pending with
      | nil =>
          rfl
      | cons c pending =>
          simp [runsAfter, List.splitOnP_nil]
  | cons c rest ih =>
      obtain ⟨head, tail, hpieces⟩ :=
        List.exists_cons_of_ne_nil (List.splitOnP_ne_nil (fun c => !p c) rest)
      rw [runsAfter, List.splitOnP_cons_eq_if_modifyHead, ih, ih, hpieces]
      by_cases hc : p c = true
      · simp [hc]
      · cases pending with
        | nil =>
            simp [hc]
        | cons d pending =>
            simp [hc]

/-- Runs are the pieces between the characters of no run, without the empty ones. -/
theorem runsOf_eq_filter (p : Char → Bool) (cs : List Char) :
    runsOf p cs = (cs.splitOnP fun c => !p c).filter fun run => !run.isEmpty := by
  obtain ⟨head, tail, hpieces⟩ :=
    List.exists_cons_of_ne_nil (List.splitOnP_ne_nil (fun c => !p c) cs)
  rw [runsOf, runsAfter_eq_filter, hpieces]
  rfl

/-- Runs hold every character that may stand in one, in order. -/
theorem flatten_runsAfter (p : Char → Bool) (pending cs : List Char) :
    (runsAfter p pending cs).flatten = pending ++ cs.filter p := by
  induction cs generalizing pending with
  | nil =>
      cases pending <;> simp [runsAfter]
  | cons c rest ih =>
      rw [runsAfter]
      split
      · rename_i hc
        simp [ih, hc]
      · rename_i hc
        split
        · rename_i hpending
          obtain rfl : pending = [] := List.isEmpty_iff.1 hpending
          simp [ih, hc]
        · simp [ih, hc]

/-- A run holds characters of the text. -/
theorem mem_of_mem_runsOf {run : List Char} : run ∈ runsOf p cs → ∀ c ∈ run, c ∈ cs := by
  intro hrun c hc
  rw [runsOf_eq_filter] at hrun
  exact (of_mem_splitOnP (List.mem_filter.1 hrun).1 c hc).1

/-- A character of no run parts the runs in front of it from those behind it. -/
theorem runsOf_append_cons (hc : p c = false) (before after : List Char) :
    runsOf p (before ++ c :: after) = runsOf p before ++ runsOf p after := by
  simp only [runsOf_eq_filter]
  rw [List.splitOnP_append_cons before after (by rw [hc]; rfl), List.filter_append]

/-- A character of a run belongs to one run with all that stands in front of it and part of what stands
behind it, the latter whatever stands in front of it. -/
theorem exists_run_of_pos (hc : p c = true) (after : List Char) :
    ∃ run runs, ∀ before : List Char, (∀ b ∈ before, p b = true) →
      runsOf p (before ++ c :: after) = (before ++ c :: run) :: runs := by
  obtain ⟨head, tail, hpieces⟩ :=
    List.exists_cons_of_ne_nil (List.splitOnP_ne_nil (fun c => !p c) after)
  refine ⟨head, tail.filter fun run => !run.isEmpty, ?_⟩
  intro before hbefore
  have hsplit : (before ++ c :: after).splitOnP (fun c => !p c) = (before ++ c :: head) :: tail := by
    induction before with
    | nil =>
        rw [List.nil_append, List.splitOnP_cons_eq_if_modifyHead, hpieces]
        simp [hc]
    | cons b before ih =>
        obtain ⟨hb, hrest⟩ := List.forall_mem_cons.1 hbefore
        rw [List.cons_append, List.splitOnP_cons_eq_if_modifyHead, ih hrest]
        simp [hb]
  rw [runsOf_eq_filter, hsplit, List.filter_cons_of_pos (by simp)]

end Text
end ApiView
