import Mathlib.Data.List.Induction
import Mathlib.Data.Nat.Init
import ApiView.Proofs.Naming.Distinct

/-!
# Histories — answers after any row of requests

An allocator knows the names that it has handed out and nothing else.  This file follows it from one
request to the next, and holds its bounded search against one without a bound:

* `Search`: candidates are tried one after the other until one is free;
* `exists_free_of_taken`: for a name that was handed out, a suffix is free whose number is at most the
  number of names handed out;
* `Search.answer_eq`, `search_choose`: the search without a bound ends, with the name that the bounded one
  chooses;
* `after`, `handedOut_after`: the allocator after a row of requests has handed out the answers to them;
* `answer_after`: the answer to the next request, whatever was asked for before.
-/

namespace ApiView
namespace Naming
namespace Allocator

variable {a : Allocator} {name candidate answer other : String} {k : Nat}

/-! ## The search without a bound -/

/-- From a candidate on, candidates that were handed out are passed over until one is free: the next
candidate is the name with the suffix `k`, and the one behind it has the suffix `k + 1`. -/
inductive Search (a : Allocator) (name : String) : String → Nat → String → Prop
  | free {candidate : String} {k : Nat} :
      candidate ∉ a.handedOut → Search a name candidate k candidate
  | taken {candidate : String} {k : Nat} {answer : String} :
      candidate ∈ a.handedOut → Search a name (suffixed name k) (k + 1) answer →
        Search a name candidate k answer

/-- The search ends in one way at most. -/
theorem Search.answer_eq :
    Search a name candidate k answer → Search a name candidate k other → answer = other := by
  intro h hother
  induction h with
  | free hfree =>
      cases hother with
      | free _ =>
          rfl
      | taken htaken _ =>
          exact absurd htaken hfree
  | taken htaken _ ih =>
      cases hother with
      | free hfree =>
          exact absurd htaken hfree
      | taken _ hrest =>
          exact ih hrest

/-- The search passes over suffixes that were handed out and ends at the first one that was not. -/
theorem Search.of_least {j : Nat} (hkj : k ≤ j) (hfree : suffixed name j ∉ a.handedOut)
    (hbelow : ∀ i, k ≤ i → i < j → suffixed name i ∈ a.handedOut) :
    Search a name (suffixed name k) (k + 1) (suffixed name j) := by
  induction hkj using Nat.decreasingInduction with
  | self =>
      exact Search.free hfree
  | of_succ i hij ih =>
      have hrest := ih fun i' hi' => hbelow i' (Nat.le_of_succ_le hi')
      exact Search.taken (hbelow i (Nat.le_refl i) hij) hrest

/-- The search without a bound ends, with the name that the bounded one chooses. -/
theorem search_choose (a : Allocator) (name : String) : Search a name name 1 (a.choose name) := by
  unfold choose contains
  by_cases htaken : name ∈ a.handedOut
  · obtain ⟨j, hj, heq, hfree, hbelow⟩ := a.firstFree_least name 1
    rw [if_pos (List.contains_iff_mem.2 htaken), heq]
    exact Search.taken htaken (Search.of_least hj hfree hbelow)
  · rw [if_neg fun h => htaken (List.contains_iff_mem.1 h)]
    exact Search.free htaken

/-! ## The bound on the suffix -/

theorem suffixed_ne (name : String) (k : Nat) : suffixed name k ≠ name := by
  intro h
  have hlength := congrArg (fun s => s.toList.length) h
  simp [suffixed] at hlength

/-- For a name that was handed out, one of as many suffixes as names were handed out is free: the name
itself is none of them. -/
theorem exists_free_of_taken (htaken : name ∈ a.handedOut) :
    ∃ i, 1 ≤ i ∧ i ≤ a.size ∧ suffixed name i ∉ a.handedOut := by
  by_contra hnone
  push Not at hnone
  -- Otherwise the name and all of the suffixes would be among the names handed out, one too many.
  have hsubset : name :: (List.range' 1 a.size).map (suffixed name) ⊆ a.handedOut := by
    rw [List.cons_subset]
    refine ⟨htaken, ?_⟩
    intro s hs
    obtain ⟨i, hi, rfl⟩ := List.mem_map.1 hs
    obtain ⟨hfirst, hlast⟩ := List.mem_range'_1.1 hi
    exact hnone i hfirst (by omega)
  have hnodup : (name :: (List.range' 1 a.size).map (suffixed name)).Nodup := by
    rw [List.nodup_cons]
    refine ⟨?_, List.Nodup.map (suffixed_injective name) (List.nodup_range' 1)⟩
    intro hmem
    obtain ⟨i, -, hi⟩ := List.mem_map.1 hmem
    exact suffixed_ne name i hi
  have hlength := hnodup.length_le_of_subset hsubset
  simp only [List.length_cons, List.length_map, List.length_range', size] at hlength
  omega

/-- A name that was handed out is answered with its least free suffix, whose number is at most the number
of names handed out. -/
theorem exists_suffix_of_taken (htaken : name ∈ a.handedOut) :
    ∃ k, 1 ≤ k ∧ k ≤ a.size ∧ a.choose name = suffixed name k ∧
      ∀ i, 1 ≤ i → i < k → suffixed name i ∈ a.handedOut := by
  obtain ⟨hnew, hself | ⟨-, k, hk, hchosen, hbelow⟩⟩ := a.choose_spec name
  · rw [hself] at hnew
    exact absurd htaken hnew
  · obtain ⟨i, hi, hsize, hfree⟩ := exists_free_of_taken htaken
    refine ⟨k, hk, ?_, hchosen, hbelow⟩
    by_contra hlarge
    exact hfree (hbelow i hi (by omega))

/-! ## Rows of requests -/

/-- The allocator after a row of requests. -/
def after (a : Allocator) (names : List String) : Allocator :=
  names.foldl (fun a name => (a.allocate name).2) a

/-- Handing out one more name. -/
theorem after_concat (a : Allocator) (earlier : List String) (name : String) :
    a.after (earlier ++ [name]) = ((a.after earlier).allocate name).2 := by
  rw [after, List.foldl_append]
  rfl

/-- The last request is answered by the allocator that the others lead to. -/
theorem allocateAll_concat (a : Allocator) (earlier : List String) (name : String) :
    a.allocateAll (earlier ++ [name]) =
      a.allocateAll earlier ++ [((a.after earlier).allocate name).1] := by
  induction earlier generalizing a with
  | nil =>
      rfl
  | cons first rest ih =>
      have hrest := ih (a.allocate first).2
      calc
        a.allocateAll (first :: rest ++ [name])
            = a.choose first :: (a.allocate first).2.allocateAll (rest ++ [name]) := rfl
        _ = a.choose first :: ((a.allocate first).2.allocateAll rest ++
              [((a.after (first :: rest)).allocate name).1]) := congrArg _ hrest
        _ = a.allocateAll (first :: rest) ++ [((a.after (first :: rest)).allocate name).1] := rfl

/-- One more name is answered after the others, whose answers stay. -/
theorem distinct_concat (earlier : List String) (name : String) :
    distinct (earlier ++ [name]) = distinct earlier ++ [((after {} earlier).allocate name).1] :=
  allocateAll_concat {} earlier name

/-- After a row of requests the answers to them are handed out, and nothing else. -/
theorem handedOut_after (names : List String) :
    (after {} names).handedOut = (distinct names).reverse := by
  induction names using List.reverseRecOn with
  | nil =>
      rfl
  | append_singleton earlier name ih =>
      calc
        (after {} (earlier ++ [name])).handedOut
            = ((after {} earlier).allocate name).1 :: (after {} earlier).handedOut := by
              rw [after_concat]
              rfl
        _ = ((after {} earlier).allocate name).1 :: (distinct earlier).reverse := by rw [ih]
        _ = (distinct (earlier ++ [name])).reverse := by
              rw [distinct_concat, List.reverse_append]
              rfl

/-- The names handed out are the answers. -/
theorem mem_handedOut_after {names : List String} {s : String} :
    s ∈ (after {} names).handedOut ↔ s ∈ distinct names := by
  rw [handedOut_after, List.mem_reverse]

/-- Every name is answered. -/
theorem length_distinct (names : List String) : (distinct names).length = names.length :=
  (distinct_forall₂ names).length_eq.symm

/-- As many names are handed out as were asked for. -/
theorem size_after (names : List String) : (after {} names).size = names.length := by
  rw [size, handedOut_after, List.length_reverse, length_distinct]

/-- Whatever was asked for before, the search for an answer ends; the answer is the name if it was not
given before, and otherwise the name with the least suffix that was not, whose number is at most the number
of earlier requests.  No answer is given twice, and after any row of requests exactly the answers are
handed out, one for each request. -/
theorem answer_after (earlier : List String) (name : String) :
    (∀ answer, Search (after {} earlier) name name 1 answer ↔
      answer = ((after {} earlier).allocate name).1) ∧
    (name ∉ distinct earlier ∧ ((after {} earlier).allocate name).1 = name ∨
      name ∈ distinct earlier ∧ ∃ k, 1 ≤ k ∧ k ≤ earlier.length ∧
        ((after {} earlier).allocate name).1 = suffixed name k ∧ suffixed name k ∉ distinct earlier ∧
          ∀ i, 1 ≤ i → i < k → suffixed name i ∈ distinct earlier) ∧
    distinct (earlier ++ [name]) = distinct earlier ++ [((after {} earlier).allocate name).1] ∧
    (distinct (earlier ++ [name])).Nodup ∧
    (∀ s, (after {} earlier).contains s = true ↔ s ∈ distinct earlier) ∧
    (after {} earlier).size = earlier.length := by
  refine ⟨?_, ?_, distinct_concat earlier name, distinct_nodup _, ?_, size_after earlier⟩
  · intro answer
    constructor
    · intro h
      exact h.answer_eq (search_choose _ name)
    · rintro rfl
      exact search_choose _ name
  · have hchosen := choose_spec (after {} earlier) name
    by_cases hgiven : name ∈ distinct earlier
    · obtain ⟨k, hk, hsize, heq, hbelow⟩ := exists_suffix_of_taken (mem_handedOut_after.2 hgiven)
      refine Or.inr ⟨hgiven, k, hk, by rwa [size_after] at hsize, heq, ?_, ?_⟩
      · rw [← mem_handedOut_after, ← heq]
        exact hchosen.1
      · intro i hi hik
        exact mem_handedOut_after.1 (hbelow i hi hik)
    · refine Or.inl ⟨hgiven, ?_⟩
      rcases hchosen.2 with hself | ⟨htaken, -⟩
      · exact hself
      · exact absurd (mem_handedOut_after.1 htaken) hgiven
  · intro s
    rw [contains, List.contains_iff_mem, mem_handedOut_after]

/-- A suffixed name may be taken itself, and then gets a suffix of its own. -/
example : distinct ["list", "list", "list_1", "list"] = ["list", "list_1", "list_1_1", "list_2"] := by
  decide

end Allocator
end Naming
end ApiView
