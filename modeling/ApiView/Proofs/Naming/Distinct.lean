import Mathlib.Data.List.Forall2
import Mathlib.Data.List.Nodup
import ApiView.Naming.Method

/-!
# Distinct — the allocator hands out no name twice

A request for a name is answered with the name itself, or with the first numbered suffix of it that is
free.  This file shows that the bounded search for a free suffix always ends at a free one, and carries
that over a row of requests:

* `firstFree_spec`: where the search ends, within its bound;
* `choose_spec`: the answer to one request is new, and is the name or its least free suffix;
* `allocateAll_spec`, `distinct_nodup`, `distinct_forall₂`: the answers to a row of requests;
* `prefix_allocateAll`, `prefix_distinct`: later requests change no earlier answer.
-/

namespace ApiView
namespace Naming
namespace Allocator

/-! ## Suffixes -/

/-- Two numbers never give one suffixed name. -/
theorem suffixed_injective (name : String) : Function.Injective (suffixed name) := by
  intro i j h
  have hlist : (suffixed name i).toList = (suffixed name j).toList := by rw [h]
  have hdigits : Nat.toDigits 10 i = Nat.toDigits 10 j := by
    simpa [suffixed] using hlist
  -- Digits can be read back.
  have hback := congrArg (fun ds => Nat.ofDigitChars 10 ds 0) hdigits
  simpa only [Nat.ofDigitChars_ten_toDigits] using hback

/-! ## The search for a free suffix -/

/-- The search runs over taken suffixes and ends at a free one, or else at its bound. -/
theorem firstFree_spec (a : Allocator) (name : String) (k fuel : Nat) :
    ∃ j, k ≤ j ∧ j ≤ k + fuel ∧ a.firstFree name k fuel = suffixed name j ∧
      (∀ i, k ≤ i → i < j → suffixed name i ∈ a.handedOut) ∧
      (j < k + fuel → suffixed name j ∉ a.handedOut) := by
  induction fuel generalizing k with
  | zero =>
      refine ⟨k, Nat.le_refl k, Nat.le_refl k, rfl, ?_, ?_⟩
      · intro i hki hik
        omega
      · intro hk
        omega
  | succ fuel ih =>
      by_cases htaken : suffixed name k ∈ a.handedOut
      · rcases ih (k + 1) with ⟨j, hkj, hj, heq, hbelow, hfree⟩
        refine ⟨j, by omega, by omega, ?_, ?_, ?_⟩
        · simpa [firstFree, contains, htaken] using heq
        · intro i hki hij
          rcases Nat.eq_or_lt_of_le hki with rfl | hlt
          · exact htaken
          · exact hbelow i hlt hij
        · intro hlt
          exact hfree (by omega)
      · refine ⟨k, Nat.le_refl k, by omega, ?_, ?_, ?_⟩
        · simp [firstFree, contains, htaken]
        · intro i hki hik
          omega
        · intro _
          exact htaken

/-- Of one more numbers than names were handed out one is free. -/
theorem exists_free (a : Allocator) (name : String) (k : Nat) :
    ∃ i, k ≤ i ∧ i ≤ k + a.size ∧ suffixed name i ∉ a.handedOut := by
  by_contra hnone
  push Not at hnone
  -- Otherwise more distinct names than were handed out would be among those handed out.
  have hsubset : (List.range' k (a.size + 1)).map (suffixed name) ⊆ a.handedOut := by
    intro s hs
    rcases List.mem_map.1 hs with ⟨i, hi, rfl⟩
    rcases List.mem_range'_1.1 hi with ⟨hki, hik⟩
    exact hnone i hki (by omega)
  have hnodup : ((List.range' k (a.size + 1)).map (suffixed name)).Nodup :=
    List.Nodup.map (suffixed_injective name) (List.nodup_range' 1)
  have hlength := hnodup.length_le_of_subset hsubset
  simp only [List.length_map, List.length_range', size] at hlength
  omega

/-- The search that is as long as names were handed out ends at the least free suffix. -/
theorem firstFree_least (a : Allocator) (name : String) (k : Nat) :
    ∃ j, k ≤ j ∧ a.firstFree name k a.size = suffixed name j ∧
      suffixed name j ∉ a.handedOut ∧ ∀ i, k ≤ i → i < j → suffixed name i ∈ a.handedOut := by
  rcases a.firstFree_spec name k a.size with ⟨j, hkj, hj, heq, hbelow, hfree⟩
  refine ⟨j, hkj, heq, ?_, hbelow⟩
  rcases Nat.lt_or_eq_of_le hj with hlt | hbound
  · exact hfree hlt
  · -- At the bound every smaller number is taken, so the free one is the bound itself.
    rcases a.exists_free name k with ⟨i, hki, hik, hi⟩
    have hij : i = j := by
      by_contra hne
      exact hi (hbelow i hki (by omega))
    exact hij ▸ hi

/-! ## Requests -/

/-- `answer` may be handed out for `name`: it is new, and it is the name, or the least free suffix of
a name that was handed out before. -/
def Answers (a : Allocator) (name answer : String) : Prop :=
  answer ∉ a.handedOut ∧
    (answer = name ∨
      name ∈ a.handedOut ∧
        ∃ k, 1 ≤ k ∧ answer = suffixed name k ∧
          ∀ i, 1 ≤ i → i < k → suffixed name i ∈ a.handedOut)

theorem choose_spec (a : Allocator) (name : String) : a.Answers name (a.choose name) := by
  unfold choose contains
  by_cases htaken : name ∈ a.handedOut
  · rcases a.firstFree_least name 1 with ⟨j, hj, heq, hfree, hbelow⟩
    simp only [List.contains_iff_mem, htaken, if_true, heq]
    exact ⟨hfree, Or.inr ⟨htaken, j, hj, rfl, hbelow⟩⟩
  · simp only [List.contains_iff_mem, htaken, if_false]
    exact ⟨htaken, Or.inl rfl⟩

/-- One answer for each request, all of them new and none given twice. -/
theorem allocateAll_spec (a : Allocator) (names : List String) :
    (a.allocateAll names).Nodup ∧ (∀ n ∈ a.allocateAll names, n ∉ a.handedOut) ∧
      List.Forall₂ (fun name n => n = name ∨ ∃ k, 1 ≤ k ∧ n = suffixed name k)
        names (a.allocateAll names) := by
  induction names generalizing a with
  | nil =>
      refine ⟨List.nodup_nil, ?_, List.Forall₂.nil⟩
      intro n hn
      cases hn
  | cons name rest ih =>
      -- The answer to the first request counts as handed out for the others.
      rcases ih ⟨a.choose name :: a.handedOut⟩ with ⟨hnodup, hnew, hshape⟩
      rcases a.choose_spec name with ⟨hfree, hchosen⟩
      refine ⟨List.nodup_cons.2 ⟨?_, hnodup⟩, ?_, List.Forall₂.cons ?_ hshape⟩
      · intro hmem
        exact hnew _ hmem (List.mem_cons_self ..)
      · intro n hn
        rcases List.mem_cons.1 hn with rfl | hmem
        · exact hfree
        · intro hold
          exact hnew n hmem (List.mem_cons_of_mem _ hold)
      · rcases hchosen with hself | ⟨_, k, hk, heq, _⟩
        · exact Or.inl hself
        · exact Or.inr ⟨k, hk, heq⟩

/-- What is asked for later changes no answer that was given before. -/
theorem prefix_allocateAll (a : Allocator) (names more : List String) :
    a.allocateAll names <+: a.allocateAll (names ++ more) := by
  induction names generalizing a with
  | nil =>
      exact List.nil_prefix
  | cons name rest ih =>
      exact List.cons_prefix_cons.2 ⟨rfl, ih ⟨a.choose name :: a.handedOut⟩⟩

end Allocator

/-! ## Rows of names -/

theorem distinct_nodup (names : List String) : (distinct names).Nodup :=
  (Allocator.allocateAll_spec ⟨[]⟩ names).1

/-- Each name keeps its place, with a numbered suffix at most. -/
theorem distinct_forall₂ (names : List String) :
    List.Forall₂ (fun name n => n = name ∨ ∃ k, 1 ≤ k ∧ n = Allocator.suffixed name k)
      names (distinct names) :=
  (Allocator.allocateAll_spec ⟨[]⟩ names).2.2

/-- Names that come later change none of those in front. -/
theorem prefix_distinct (names more : List String) :
    distinct names <+: distinct (names ++ more) :=
  Allocator.prefix_allocateAll ⟨[]⟩ names more

end Naming
end ApiView
