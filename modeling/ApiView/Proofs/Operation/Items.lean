import ApiView.Proofs.Operation.Retained

/-!
# Items — what a document lists its operations in

A document lists its operations under one name, item by item: path items, or legacy interfaces.  The
walk goes from item to item, and no item is read for the operations of another:

* `Build.listing`, `Build.items`: the name, and the items that are listed under it;
* `Build.itemSteps`, `Build.itemOperations`: the walk of one item, and the operations that it retains;
* `steps_eq_flatMap`, `retained_eq_flatMap`: a document is walked item by item;
* `exists_operationsOf_iff`: a walk has an end iff none of its steps breaks off.
-/

namespace ApiView
namespace Build

variable {grammar : Grammar} {document : Entries}

/-! ## Items of a listing -/

/-- The name that a document lists its operations under. -/
def listing : Grammar → String
  | .legacy => "apis"
  | .swagger2 | .openApi3 => "paths"

/-- The items of a listing under their keys.  Interfaces have no keys, so theirs is null. -/
def listedItems : Grammar → Value → List (Scalar × Value)
  | .legacy, listed => (listed.items?.getD []).map fun api => (.null, api)
  | .swagger2, listed | .openApi3, listed => listed.entries?.getD []

/-- The items that a document lists its operations in. -/
def items (grammar : Grammar) (document : Entries) : List (Scalar × Value) :=
  listedItems grammar (document.member (listing grammar))

/-- The walk of an item. -/
def itemSteps : Grammar → Scalar × Value → List Step
  | .legacy, (_, api) => walkApi (api.entries?.getD [])
  | .swagger2, (path, item) | .openApi3, (path, item) =>
    walkItem path (sharedParameters (item.entries?.getD [])) (item.entries?.getD [])

/-- The operations that an item retains. -/
def itemOperations : Grammar → Scalar × Value → List Operation
  | .legacy, (_, api) => Operation.ofApi (api.entries?.getD [])
  | .swagger2, (path, item) | .openApi3, (path, item) =>
    Operation.ofItem path (item.entries?.getD [])

/-! ## Item by item -/

theorem steps_eq_flatMap :
    steps grammar document = (items grammar document).flatMap (itemSteps grammar) := by
  cases grammar with
  | legacy =>
      simp only [steps, items, listedItems, listing, itemSteps, walkApis, List.flatMap_map]
      refine List.flatMap_congr fun api _ => ?_
      -- What is no interface is walked like one without members.
      cases api with
      | map entries =>
          rfl
      | _ =>
          rfl
  | swagger2 =>
      exact walkTable_eq_flatMap _
  | openApi3 =>
      exact walkTable_eq_flatMap _

theorem retained_eq_flatMap :
    retained grammar document = (items grammar document).flatMap (itemOperations grammar) := by
  cases grammar with
  | legacy =>
      simp only [retained, Operation.ofApis, items, listedItems, listing, itemOperations,
        List.flatMap_map]
  | swagger2 =>
      rfl
  | openApi3 =>
      rfl

/-! ## Walks that end -/

/-- A walk finds its operations iff none of its steps breaks off. -/
theorem exists_operationsOf_iff {steps : List Step} :
    (∃ ops, operationsOf steps = .ok ops) ↔ ∀ e, .broken e ∉ steps := by
  induction steps with
  | nil =>
      simp
  | cons step rest ih =>
      cases step with
      | visit op =>
          simp only [operationsOf, bind_eq_ok_iff, pure_eq_ok_iff, List.mem_cons, reduceCtorEq,
            false_or, ← ih]
          constructor
          · rintro ⟨_, ops, hops, _⟩
            exact ⟨ops, hops⟩
          · rintro ⟨ops, hops⟩
            exact ⟨op :: ops, ops, hops, rfl⟩
      | skip line =>
          simpa using ih
      | broken e =>
          constructor
          · rintro ⟨_, hops⟩
            cases hops
          · intro hunbroken
            exact absurd (List.mem_cons_self ..) (hunbroken e)

/-- A document whose walk ends is walked to its retained operations. -/
theorem operationsOf_steps_of_unbroken :
    (∀ e, .broken e ∉ steps grammar document) →
      operationsOf (steps grammar document) = .ok (retained grammar document) := by
  intro h
  obtain ⟨ops, hops⟩ := exists_operationsOf_iff.2 h
  have hretained := operationsOf_steps hops
  rw [hops, hretained]

end Build
end ApiView
