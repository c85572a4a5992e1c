import Mathlib.Data.List.Forall2
import ApiView.Trace
import ApiView.Value.Check

/-!
# Outcomes — taking a run apart

A build is a chain of steps that may fail.  This file says what a chain that has a result went
through, so that no later proof opens a `do` block by hand:

* `bind_eq_ok_iff`, `pure_eq_ok_iff`, `mapM_eq_ok_iff`: the results in between;
* `exists_ok_bind`, `exists_ok_mapM`: a chain whose steps have results has one;
* `toOption_bind`, `toOption_mapM_map`: a run up to the reason why it fails;
* `ok_or_error_of_toOption`: runs that agree up to that reason;
* `accept_eq_ok_iff`: a record is accepted iff nothing is wrong with it.
-/

namespace ApiView

variable {α β γ ε : Type}

/-! ## Results in between -/

/-- Two steps in a row succeed exactly if the first does, and then the second on its result. -/
theorem bind_eq_ok_iff {x : Except ε α} {f : α → Except ε β} {b : β} :
    (x >>= f) = .ok b ↔ ∃ a, x = .ok a ∧ f a = .ok b := by
  cases x with
  | error e =>
      simp [bind, Except.bind]
  | ok a =>
      simp [bind, Except.bind]

theorem ok_bind (a : α) (f : α → Except ε β) : (.ok a >>= f) = f a := rfl

theorem map_bind {x : Except Failure α} {f : α → β} {g : β → Except Failure γ} :
    (x.map f >>= g) = x >>= fun a => g (f a) := by
  cases x <;> rfl

theorem pure_eq_ok_iff {a b : α} :
    (pure a : Except ε α) = .ok b ↔ a = b := by
  simp [pure, Except.pure]

/-- A row of steps has a result iff each of them has, and then it is the row of their results. -/
theorem mapM_eq_ok_iff {f : α → Except Failure β} {xs : List α} {ys : List β} :
    xs.mapM f = .ok ys ↔ List.Forall₂ (fun x y => f x = .ok y) xs ys := by
  induction xs generalizing ys with
  | nil =>
      rw [List.mapM_nil, pure_eq_ok_iff, List.forall₂_nil_left_iff, eq_comm]
  | cons x xs ih =>
      simp only [List.mapM_cons, bind_eq_ok_iff, pure_eq_ok_iff, ih, List.forall₂_cons_left_iff]
      constructor
      · rintro ⟨y, hy, ys', hys, rfl⟩
        exact ⟨y, ys', hy, hys, rfl⟩
      · rintro ⟨y, ys', hy, hys, rfl⟩
        exact ⟨y, hy, ys', hys, rfl⟩

/-- The results over a list are the results of its elements. -/
theorem mem_of_mapM_iff {f : α → Except Failure β} {xs : List α} {ys : List β} {y : β} :
    xs.mapM f = .ok ys → (y ∈ ys ↔ ∃ x ∈ xs, f x = .ok y) := by
  intro h
  have hrows := mapM_eq_ok_iff.1 h
  -- The run itself would become a hypothesis of the induction.
  clear h
  induction hrows with
  | nil =>
      simp
  | cons hhead _ ih =>
      simp [ih, hhead, eq_comm]

/-- A chain has a result if each of its steps has one. -/
theorem exists_ok_bind {x : Except ε α} {f : α → Except ε β} :
    (∃ a, x = .ok a) → (∀ a, x = .ok a → ∃ b, f a = .ok b) → ∃ b, (x >>= f) = .ok b := by
  rintro ⟨a, rfl⟩ hf
  exact hf a rfl

/-- Mapping succeeds over a list if it does on every element. -/
theorem exists_ok_mapM {f : α → Except Failure β} {xs : List α} :
    (∀ x ∈ xs, ∃ y, f x = .ok y) → ∃ ys, xs.mapM f = .ok ys := by
  intro h
  induction xs with
  | nil =>
      exact ⟨[], rfl⟩
  | cons x rest ih =>
      obtain ⟨hx, hrest⟩ := List.forall_mem_cons.1 h
      rw [List.mapM_cons]
      exact exists_ok_bind hx fun y _ => exists_ok_bind (ih hrest) fun ys _ => ⟨y :: ys, rfl⟩

/-- Rows that match one by one, through a row in between. -/
theorem forall₂_through {R : α → β → Prop} {S : β → γ → Prop} {xs : List α} {ys : List β}
    {zs : List γ} :
    List.Forall₂ R xs ys → List.Forall₂ S ys zs →
      List.Forall₂ (fun x z => ∃ y, R x y ∧ S y z) xs zs := by
  intro hxy hyz
  induction hxy generalizing zs with
  | nil =>
      cases hyz
      exact List.Forall₂.nil
  | cons hhead _ ih =>
      cases hyz with
      | cons hhead' htail' =>
          exact List.Forall₂.cons ⟨_, hhead, hhead'⟩ (ih htail')

/-- Whatever stands in one row has its match in the other one. -/
theorem exists_match {R : α → β → Prop} {xs : List α} {ys : List β} {x : α} :
    List.Forall₂ R xs ys → x ∈ xs → ∃ y ∈ ys, R x y := by
  intro h hx
  induction h with
  | nil =>
      cases hx
  | cons hhead _ ih =>
      cases hx with
      | head =>
          exact ⟨_, List.mem_cons_self .., hhead⟩
      | tail _ hx =>
          obtain ⟨y, hy, hR⟩ := ih hx
          exact ⟨y, List.mem_cons_of_mem _ hy, hR⟩

/-! ## Runs up to the reason of a failure -/

/-- Two steps in a row, with failures forgotten. -/
@[simp]
theorem toOption_bind (x : Except Failure α) (f : α → Except Failure β) :
    (x >>= f).toOption = x.toOption.bind fun a => (f a).toOption := by
  cases x <;> rfl

theorem exists_ok_of_toOption_map {x : Except Failure α} {f : α → β} {b : β} :
    x.toOption.map f = some b → ∃ a, x = .ok a ∧ f a = b := by
  intro h
  cases x with
  | error e =>
      cases h
  | ok a =>
      exact ⟨a, rfl, by simpa [Except.toOption] using h⟩

/-- Rows of runs that agree one by one agree as a whole. -/
theorem toOption_mapM_map {f : α → Except Failure γ} {g : β → Except Failure γ} {change : α → β}
    {xs : List α} :
    (∀ x ∈ xs, (g (change x)).toOption = (f x).toOption) →
      ((xs.map change).mapM g).toOption = (xs.mapM f).toOption := by
  intro h
  induction xs with
  | nil =>
      rfl
  | cons x rest ih =>
      have hhead := h x List.mem_cons_self
      have ih := ih fun y hy => h y (List.mem_cons_of_mem _ hy)
      simp only [List.map_cons, List.mapM_cons, toOption_bind, hhead, ih]

/-- Runs that agree both have a result, or both fail. -/
theorem ok_or_error_of_toOption {x : Except Failure α} {y : Except Failure β} {f : α → β} :
    y.toOption = x.toOption.map f →
      (∃ a, x = .ok a ∧ y = .ok (f a)) ∨ ∃ e e', x = .error e ∧ y = .error e' := by
  intro h
  cases x with
  | error e =>
      cases y with
      | error e' =>
          exact .inr ⟨e, e', rfl, rfl⟩
      | ok b =>
          cases h
  | ok a =>
      cases y with
      | error e' =>
          cases h
      | ok b =>
          cases h
          exact .inl ⟨a, rfl, rfl⟩

/-! ## Records -/

/-- A record is accepted as it is, and only if it has no problems. -/
theorem accept_eq_ok_iff {record : Record} {problems : List Problem} {result r : α} :
    accept record problems result = .ok r ↔ problems = [] ∧ result = r := by
  unfold accept
  split
  · rename_i h
    simp [List.isEmpty_iff.1 h]
  · rename_i h
    have hne : problems ≠ [] := fun hnil => h (by simp [hnil])
    simp [hne]

theorem toOption_accept_map {record : Record} {problems : List Problem} {result : α} {f : α → β} :
    (accept record problems result).toOption.map f = (accept record problems (f result)).toOption := by
  unfold accept
  split <;> rfl

/-- A field that has to be a text, and that nothing is wrong with, is given as one. -/
theorem Value.fieldText?_of_textProblems {field : String} {v : Value} :
    v.textProblems field = [] → ∃ s, v.fieldText? = some s := by
  intro h
  unfold Value.textProblems Value.textProblemsAt at h
  unfold Value.fieldText?
  cases hv : v.fieldText with
  | ok s =>
      exact ⟨s, rfl⟩
  | error kind =>
      simp [hv] at h

end ApiView
