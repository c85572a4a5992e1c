import ApiView.Proofs.Outcomes
import ApiView.Reference.Resolve

/-!
# Chains — where references end

A node is followed through references until it is none, or until a reference leads nowhere:

* `Failure.IsReference`: a failure that is put down to a reference;
* `fault_of_resolve`: a pointer that does not resolve, and the reason why;
* `follow_cases`, `follow_outcome`: one step along a chain, and the whole of it;
* `pointer?_of_deref`: a chain that ends, ends at a node that is no reference;
* `isReference_of_deref`: any other chain fails for one of its references.
-/

namespace ApiView

/-- A failure that is put down to a reference. -/
def Failure.IsReference (e : Failure) : Prop :=
  ∃ pointer fault, e = .reference pointer fault

namespace Reference

variable {document : Value} {kind : Kind} {seen : List String} {fuel : Nat} {node result : Value}
  {pointer : String} {e : Failure}

/-! ## Single references -/

/-- A pointer that cannot be parsed is at fault. -/
theorem fault_of_parse :
    Pointer.parse pointer = .error e → ∃ fault, e = .reference pointer fault := by
  intro h
  unfold Pointer.parse at h
  split at h
  · cases h
    exact ⟨_, rfl⟩
  · dsimp only at h
    split at h
    · cases h
      exact ⟨_, rfl⟩
    · cases h
  · split at h
    · cases h
      exact ⟨_, rfl⟩
    · cases h

theorem fault_of_asNode {v : Value} :
    asNode pointer v = .error e → ∃ fault, e = .reference pointer fault := by
  intro h
  cases v with
  | map entries =>
      cases h
  | _ =>
      cases h
      exact ⟨_, rfl⟩

theorem fault_of_resolveName {name : String} :
    resolveName document kind pointer name = .error e → ∃ fault, e = .reference pointer fault := by
  intro h
  unfold resolveName at h
  cases hfound : kind.tables.findSome? fun path => (table? document path).bind (·.member? name) with
  | none =>
      rw [hfound] at h
      cases h
      exact ⟨_, rfl⟩
  | some v =>
      rw [hfound] at h
      exact fault_of_asNode h

theorem fault_of_resolveIn {path : List String} {name : String} :
    resolveIn document kind pointer path name = .error e → ∃ fault, e = .reference pointer fault := by
  intro h
  unfold resolveIn at h
  by_cases hpath : kind.tables.contains path = true
  · rw [if_pos hpath] at h
    cases htable : table? document path with
    | none =>
        rw [htable] at h
        cases h
        exact ⟨_, rfl⟩
    | some entries =>
        cases hmember : entries.member? name with
        | none =>
            simp only [htable, hmember] at h
            cases h
            exact ⟨_, rfl⟩
        | some v =>
            simp only [htable, hmember] at h
            exact fault_of_asNode h
  · rw [if_neg hpath] at h
    cases h
    exact ⟨_, rfl⟩

/-- A pointer that does not resolve is itself what the failure is put down to. -/
theorem fault_of_resolve :
    resolve document kind pointer = .error e → ∃ fault, e = .reference pointer fault := by
  intro h
  unfold resolve at h
  cases hparse : Pointer.parse pointer with
  | error e' =>
      rw [hparse] at h
      cases h
      exact fault_of_parse hparse
  | ok segments =>
      rw [hparse, ok_bind] at h
      split at h
      · exact fault_of_resolveName h
      · exact fault_of_resolveIn h

/-- Resolving fails on references only. -/
theorem isReference_of_resolve : resolve document kind pointer = .error e → e.IsReference := by
  intro h
  exact ⟨pointer, fault_of_resolve h⟩

/-! ## Chains -/

/-- What one step along a chain does: it ends, it is given up, or it goes on at the next node. -/
theorem follow_cases (document : Value) (kind : Kind) (seen : List String) (fuel : Nat)
    (node : Value) :
    (pointer? node = none ∧ follow document kind seen fuel node = .ok node) ∨
      (∃ pointer, follow document kind seen fuel node = .error (.reference pointer .circular)) ∨
        ∃ pointer n, fuel = n + 1 ∧
          follow document kind seen fuel node = resolve document kind pointer >>= fun entries =>
            follow document kind (pointer :: seen) n (.map entries) := by
  cases hpointer : pointer? node with
  | none =>
      refine Or.inl ⟨rfl, ?_⟩
      unfold follow
      rw [hpointer]
  | some pointer =>
      by_cases hseen : seen.contains pointer = true
      · refine Or.inr (Or.inl ⟨pointer, ?_⟩)
        unfold follow
        simp only [hpointer, hseen, if_true]
      · cases fuel with
        | zero =>
            refine Or.inr (Or.inl ⟨pointer, ?_⟩)
            unfold follow
            simp only [hpointer, hseen]
            rfl
        | succ n =>
            refine Or.inr (Or.inr ⟨pointer, n, rfl, ?_⟩)
            conv_lhs => unfold follow
            simp only [hpointer, hseen]
            rfl

/-- A chain ends at a node that is no reference, or fails for one of its references. -/
theorem follow_outcome (document : Value) (kind : Kind) (seen : List String) (fuel : Nat)
    (node : Value) :
    (∃ result, follow document kind seen fuel node = .ok result ∧ pointer? result = none) ∨
      ∃ e, follow document kind seen fuel node = .error e ∧ e.IsReference := by
  -- Each step along the chain uses up fuel.
  induction fuel using Nat.strongRecOn generalizing seen node with
  | ind fuel ih =>
      obtain ⟨hnone, hend⟩ | ⟨pointer, hend⟩ | ⟨pointer, n, rfl, hnext⟩ :=
        follow_cases document kind seen fuel node
      · exact Or.inl ⟨node, hend, hnone⟩
      · exact Or.inr ⟨_, hend, pointer, .circular, rfl⟩
      · rw [hnext]
        cases hresolve : resolve document kind pointer with
        | error e =>
            exact Or.inr ⟨e, rfl, isReference_of_resolve hresolve⟩
        | ok entries =>
            exact ih n (Nat.lt_succ_self n) _ _

/-- A node that is found through references is none itself. -/
theorem pointer?_of_deref : deref document kind node = .ok result → pointer? result = none := by
  intro h
  obtain ⟨result', hok, hnone⟩ | ⟨e, herror, _⟩ := follow_outcome document kind [] (entryCount document kind + 1) node
  · cases hok.symm.trans h
    exact hnone
  · cases herror.symm.trans h

/-- Following references fails for nothing but a reference. -/
theorem isReference_of_deref : deref document kind node = .error e → e.IsReference := by
  intro h
  obtain ⟨result, hok, _⟩ | ⟨e', herror, hreference⟩ := follow_outcome document kind [] (entryCount document kind + 1) node
  · cases hok.symm.trans h
  · cases herror.symm.trans h
    exact hreference

end Reference
end ApiView
