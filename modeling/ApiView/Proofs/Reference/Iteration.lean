import Mathlib.Data.List.Perm.Subperm
import Mathlib.Logic.Function.Iterate
import Mathlib.Logic.Relation
import ApiView.Proofs.Members
import ApiView.Proofs.Reference.Chains
import ApiView.Proofs.Reference.Tables

/-!
# Iteration — references are resolved until there are none

References are followed with a bound on the steps and with the pointers that were followed already.  The
bound is never met, and no pointer is met again unless the chain has no end:

* `Leads`: one step along a chain, which replaces a reference by what it resolves to;
* `Pursuit`: the loop over references without a bound, and the pointers that it resolves;
* `Trail`: what is known of the pointers followed so far;
* `exists_pursuit`: the loop ends before the bound, whatever the document is;
* `Leads.exists_chain`, `not_transGen_of_end`: chains without an end, and chains with one;
* `deref_iff_iterates`: following references is iterating single steps.
-/

namespace ApiView
namespace Reference

variable {document : Value} {kind : Kind} {node next v : Value} {pointer : String}
  {seen calls : List String} {e : Failure} {result : Except Failure Value}

/-! ## Single steps -/

/-- One step along a chain: a reference is replaced by the mapping that it resolves to. -/
def Leads (document : Value) (kind : Kind) (node next : Value) : Prop :=
  ∃ pointer entries, pointer? node = some pointer ∧ resolve document kind pointer = .ok entries ∧
    next = .map entries

/-- A node is reached from another one in finitely many steps. -/
abbrev Reaches (document : Value) (kind : Kind) : Value → Value → Prop :=
  Relation.ReflTransGen (Leads document kind)

/-- A step depends on the pointer alone. -/
theorem Leads.of_pointer {other : Value} (hpointer : pointer? other = pointer? node) :
    Leads document kind node next → Leads document kind other next := by
  rintro ⟨pointer, entries, hnode, hresolve, hnext⟩
  exact ⟨pointer, entries, hpointer.trans hnode, hresolve, hnext⟩

/-- A node leads to one other at most. -/
theorem leads_rightUnique (document : Value) (kind : Kind) :
    Relator.RightUnique (Leads document kind) := by
  rintro node next next' ⟨pointer, entries, hnode, hresolve, rfl⟩ ⟨pointer', entries', hnode', hresolve', rfl⟩
  cases hnode.symm.trans hnode'
  cases hresolve.symm.trans hresolve'
  rfl

theorem not_leads_of_rejected (hpointer : pointer? node = some pointer)
    (hreject : resolve document kind pointer = .error e) : ¬ Leads document kind node next := by
  rintro ⟨pointer', _, hpointer', hresolve, _⟩
  cases hpointer.symm.trans hpointer'
  cases hreject.symm.trans hresolve

theorem not_leads_of_end (hnone : pointer? node = none) : ¬ Leads document kind node next := by
  rintro ⟨pointer, _, hpointer, _⟩
  cases hnone.symm.trans hpointer

/-! ## The loop -/

/-- The loop over references without a bound: from a node, with the pointers followed so far, it resolves
some pointers and comes to a result. -/
inductive Pursuit (document : Value) (kind : Kind) :
    List String → Value → List String → Except Failure Value → Prop
  | arrive {seen : List String} {node : Value} :
      pointer? node = none → Pursuit document kind seen node [] (.ok node)
  | turn {seen : List String} {node : Value} {pointer : String} :
      pointer? node = some pointer → pointer ∈ seen →
        Pursuit document kind seen node [] (.error (.reference pointer .circular))
  | fail {seen : List String} {node : Value} {pointer : String} {e : Failure} :
      pointer? node = some pointer → pointer ∉ seen → resolve document kind pointer = .error e →
        Pursuit document kind seen node [pointer] (.error e)
  | pass {seen calls : List String} {node : Value} {pointer : String} {entries : Entries}
      {result : Except Failure Value} :
      pointer? node = some pointer → pointer ∉ seen → resolve document kind pointer = .ok entries →
        Pursuit document kind (pointer :: seen) (.map entries) calls result →
          Pursuit document kind seen node (pointer :: calls) result

/-! ## Entries of tables -/

/-- The pointers of the entries of the tables of a kind. -/
def tablePointers (document : Value) (kind : Kind) : List String :=
  (kind.tables.flatMap fun path => (table? document path).getD []).filterMap fun entry =>
    pointer? entry.2

/-- There are no more pointers in the tables of a kind than entries. -/
theorem length_tablePointers (document : Value) (kind : Kind) :
    (tablePointers document kind).length ≤ entryCount document kind :=
  List.length_filterMap_le _ _

/-- The pointer of an entry is one of its tables. -/
theorem pointer_mem_of_member {path : List String} {table entries : Entries} {name : String}
    (hpath : path ∈ kind.tables) (htable : table? document path = some table)
    (hmember : table.member? name = some (.map entries))
    (hpointer : pointer? (.map entries) = some pointer) : pointer ∈ tablePointers document kind := by
  obtain ⟨key, hentry, -⟩ := Entries.exists_mem_of_find? hmember
  refine List.mem_filterMap.2 ⟨(key, .map entries), List.mem_flatMap.2 ⟨path, hpath, ?_⟩, hpointer⟩
  rw [htable]
  exact hentry

/-- What a pointer resolves to is an entry of a table. -/
theorem pointer_mem_of_resolve {entries : Entries} {first : String}
    (hresolve : resolve document kind first = .ok entries)
    (hpointer : pointer? (.map entries) = some pointer) : pointer ∈ tablePointers document kind := by
  unfold resolve at hresolve
  obtain ⟨segments, -, hresolve⟩ := bind_eq_ok_iff.1 hresolve
  -- A bare name is looked up in the tables of its kind, and any other pointer names one of them.
  split at hresolve
  · rename_i name
    unfold resolveName at hresolve
    split at hresolve
    · rename_i found hfound
      obtain ⟨path, hpath, hlook⟩ := List.exists_of_findSome?_eq_some hfound
      obtain ⟨table, htable, hmember⟩ := Option.bind_eq_some_iff.1 hlook
      cases found with
      | map entries' =>
          cases hresolve
          exact pointer_mem_of_member hpath htable hmember hpointer
      | _ =>
          cases hresolve
    · cases hresolve
  · have hoption := congrArg Except.toOption hresolve
    by_cases hpath : segments.dropLast ∈ kind.tables
    · rw [toOption_resolveIn hpath] at hoption
      obtain ⟨table, htable, hlook⟩ := Option.bind_eq_some_iff.1 hoption
      obtain ⟨found, hmember, hfound⟩ := Option.bind_eq_some_iff.1 hlook
      rw [Value.entries?_eq_some_iff.1 hfound] at hmember
      exact pointer_mem_of_member hpath htable hmember hpointer
    · rw [toOption_resolveIn_of_notMem hpath] at hoption
      cases hoption

/-! ## Termination -/

/-- What is known of the pointers followed so far, the latest first: none was followed twice, and all but
the first one, as well as the next one, are pointers of table entries. -/
structure Trail (document : Value) (kind : Kind) (seen : List String) (node : Value) : Prop where
  distinct : seen.Nodup
  listed : ∀ pointer ∈ seen.dropLast, pointer ∈ tablePointers document kind
  next : seen ≠ [] → ∀ pointer, pointer? node = some pointer → pointer ∈ tablePointers document kind

namespace Trail

theorem nil (node : Value) : Trail document kind [] node where
  distinct := List.nodup_nil
  listed := fun _ hmem => nomatch hmem
  next := fun hne => absurd rfl hne

theorem cons {entries : Entries} (htrail : Trail document kind seen node)
    (hpointer : pointer? node = some pointer) (hfresh : pointer ∉ seen)
    (hresolve : resolve document kind pointer = .ok entries) :
    Trail document kind (pointer :: seen) (.map entries) where
  distinct := List.nodup_cons.2 ⟨hfresh, htrail.distinct⟩
  listed := by
    intro other hother
    cases seen with
    | nil =>
        cases hother
    | cons latest before =>
        rw [List.dropLast_cons_cons, List.mem_cons] at hother
        rcases hother with rfl | hother
        · exact htrail.next (List.cons_ne_nil _ _) _ hpointer
        · exact htrail.listed _ hother
  next := fun _ _ hnext => pointer_mem_of_resolve hresolve hnext

/-- A new pointer leaves room: there are no more distinct pointers than entries and the first one. -/
theorem length_lt (htrail : Trail document kind seen node) (hpointer : pointer? node = some pointer)
    (hfresh : pointer ∉ seen) : seen.length < entryCount document kind + 1 := by
  cases seen with
  | nil =>
      exact Nat.succ_pos _
  | cons latest before =>
      have hdistinct : (pointer :: (latest :: before).dropLast).Nodup := by
        refine List.nodup_cons.2 ⟨fun hmem => hfresh (List.dropLast_subset _ hmem), ?_⟩
        exact htrail.distinct.sublist (List.dropLast_sublist _)
      have hlisted : (pointer :: (latest :: before).dropLast) ⊆ tablePointers document kind := by
        intro other hother
        rcases List.mem_cons.1 hother with rfl | hother
        · exact htrail.next (List.cons_ne_nil _ _) _ hpointer
        · exact htrail.listed _ hother
      have hlength := (hdistinct.subperm hlisted).length_le
      have hentries := length_tablePointers document kind
      rw [List.length_cons, List.length_dropLast] at hlength
      omega

end Trail

/-- Nothing is resolved at the end of a chain, or at a pointer that was followed before. -/
theorem pursuit_of_known (hknown : ∀ pointer, pointer? node = some pointer → pointer ∈ seen)
    (fuel : Nat) : Pursuit document kind seen node [] (follow document kind seen fuel node) := by
  cases hpointer : pointer? node with
  | none =>
      rw [follow_of_inline hpointer]
      exact .arrive hpointer
  | some pointer =>
      have hseen := hknown pointer hpointer
      have hcircular : follow document kind seen fuel node = .error (.reference pointer .circular) := by
        unfold follow
        simp only [hpointer, List.contains_iff_mem.2 hseen, if_true]
      rw [hcircular]
      exact .turn hpointer hseen

/-- The loop ends with the result that is found within the bound, and resolves no more pointers than the
bound allows. -/
theorem exists_pursuit {fuel : Nat} (htrail : Trail document kind seen node)
    (hfuel : fuel + seen.length = entryCount document kind + 1) :
    ∃ calls, Pursuit document kind seen node calls (follow document kind seen fuel node) ∧
      calls.length ≤ fuel := by
  induction fuel generalizing seen node with
  | zero =>
      -- There is no room for another pointer, so the next one was followed before.
      refine ⟨[], pursuit_of_known (fun pointer hpointer => ?_) 0, Nat.le_refl 0⟩
      by_contra hfresh
      have hroom := htrail.length_lt hpointer hfresh
      omega
  | succ fuel ih =>
      by_cases hknown : ∀ pointer, pointer? node = some pointer → pointer ∈ seen
      · exact ⟨[], pursuit_of_known hknown (fuel + 1), Nat.zero_le _⟩
      · obtain ⟨pointer, hpointer, hfresh⟩ : ∃ pointer, pointer? node = some pointer ∧ pointer ∉ seen := by
          simpa using hknown
        rw [follow_succ hpointer (by simpa using hfresh)]
        cases hresolve : resolve document kind pointer with
        | error e =>
            exact ⟨[pointer], .fail hpointer hfresh hresolve, Nat.succ_le_succ (Nat.zero_le _)⟩
        | ok entries =>
            rw [ok_bind]
            obtain ⟨calls, hpursuit, hcalls⟩ := ih (htrail.cons hpointer hfresh hresolve)
              (by rw [List.length_cons]; omega)
            exact ⟨pointer :: calls, .pass hpointer hfresh hresolve hpursuit, Nat.succ_le_succ hcalls⟩

/-- The bound that references are followed with allows one pointer more than there are entries. -/
theorem exists_pursuit_deref (document : Value) (kind : Kind) (node : Value) :
    ∃ calls, Pursuit document kind [] node calls (deref document kind node) ∧
      calls.length ≤ entryCount document kind + 1 :=
  exists_pursuit (Trail.nil node) rfl

/-! ## Results -/

/-- What the loop arrives at is reached in single steps, and is no reference. -/
theorem Pursuit.reaches (h : Pursuit document kind seen node calls (.ok v)) :
    Reaches document kind node v ∧ pointer? v = none := by
  generalize hresult : (Except.ok v : Except Failure Value) = result at h
  induction h with
  | arrive hnone =>
      cases hresult
      exact ⟨.refl, hnone⟩
  | turn _ _ =>
      cases hresult
  | fail _ _ _ =>
      cases hresult
  | pass hpointer _ hresolve _ ih =>
      obtain ⟨hreaches, hnone⟩ := ih hresult
      exact ⟨.head ⟨_, _, hpointer, hresolve, rfl⟩ hreaches, hnone⟩

/-- A pointer that is rejected stands at the end of a chain. -/
def Rejects (document : Value) (kind : Kind) (node : Value) (e : Failure) : Prop :=
  ∃ w pointer, Reaches document kind node w ∧ pointer? w = some pointer ∧
    resolve document kind pointer = .error e

/-- The loop is given up only at a pointer that is rejected or on a way that leads back to itself. -/
theorem Pursuit.rejects_or_returns (h : Pursuit document kind seen node calls (.error e))
    (hseen : ∀ pointer ∈ seen, ∃ w, pointer? w = some pointer ∧
      Relation.TransGen (Leads document kind) w node) :
    Rejects document kind node e ∨
      ∃ w, Reaches document kind node w ∧ Relation.TransGen (Leads document kind) w w := by
  generalize hresult : (Except.error e : Except Failure Value) = result at h
  induction h with
  | arrive _ =>
      cases hresult
  | @turn seen node pointer hpointer hmem =>
      -- The node with the same pointer leads to the same next node, and from there back to this one.
      obtain ⟨w, hw, hreturn⟩ := hseen pointer hmem
      obtain ⟨x, hstep, hback⟩ := Relation.TransGen.head'_iff.1 hreturn
      have hstep' := hstep.of_pointer (hpointer.trans hw.symm)
      exact .inr ⟨node, .refl, Relation.TransGen.head' hstep' hback⟩
  | fail hpointer _ hresolve =>
      cases hresult
      exact .inl ⟨_, _, .refl, hpointer, hresolve⟩
  | @pass seen calls node pointer entries result hpointer _ hresolve _ ih =>
      have hstep : Leads document kind node (.map entries) := ⟨_, _, hpointer, hresolve, rfl⟩
      have hseen' : ∀ other ∈ pointer :: seen, ∃ w, pointer? w = some other ∧
          Relation.TransGen (Leads document kind) w (.map entries) := by
        intro other hother
        rcases List.mem_cons.1 hother with rfl | hother
        · exact ⟨node, hpointer, .single hstep⟩
        · obtain ⟨w, hw, hway⟩ := hseen other hother
          exact ⟨w, hw, hway.tail hstep⟩
      rcases ih hseen' hresult with ⟨w, other, hreaches, hw, hreject⟩ | ⟨w, hreaches, hreturn⟩
      · exact .inl ⟨w, other, .head hstep hreaches, hw, hreject⟩
      · exact .inr ⟨w, .head hstep hreaches, hreturn⟩

/-! ## Ends -/

/-- Two nodes on one chain at which no step is possible are the same. -/
theorem Reaches.eq_of_stuck {w w' : Value} (h : Reaches document kind node w)
    (h' : Reaches document kind node w') (hw : ∀ x, ¬ Leads document kind w x)
    (hw' : ∀ x, ¬ Leads document kind w' x) : w = w' := by
  rcases Relation.ReflTransGen.total_of_right_unique (leads_rightUnique document kind) h h' with
    hway | hway
  · rcases Relation.ReflTransGen.cases_head hway with heq | ⟨x, hstep, _⟩
    · exact heq
    · exact absurd hstep (hw x)
  · rcases Relation.ReflTransGen.cases_head hway with heq | ⟨x, hstep, _⟩
    · exact heq.symm
    · exact absurd hstep (hw' x)

/-- A chain with an end never leads back. -/
theorem not_transGen_of_end {w : Value} (h : Reaches document kind w v) (hnone : pointer? v = none) :
    ¬ Relation.TransGen (Leads document kind) w w := by
  induction h using Relation.ReflTransGen.head_induction_on with
  | refl =>
      intro hreturn
      obtain ⟨x, hstep, _⟩ := Relation.TransGen.head'_iff.1 hreturn
      exact not_leads_of_end hnone hstep
  | head hstep _ ih =>
      intro hreturn
      obtain ⟨x, hstep', hback⟩ := Relation.TransGen.head'_iff.1 hreturn
      cases leads_rightUnique document kind hstep hstep'
      exact ih (Relation.TransGen.tail' hback hstep)

/-- Where an end is reached, it is found. -/
theorem deref_of_reaches (h : Reaches document kind node v) (hnone : pointer? v = none) :
    deref document kind node = .ok v := by
  obtain ⟨calls, hpursuit, _⟩ := exists_pursuit_deref document kind node
  cases hderef : deref document kind node with
  | ok v' =>
      rw [hderef] at hpursuit
      obtain ⟨hreaches, hnone'⟩ := hpursuit.reaches
      rw [hreaches.eq_of_stuck h (fun x => not_leads_of_end hnone') fun x => not_leads_of_end hnone]
  | error e =>
      rw [hderef] at hpursuit
      rcases hpursuit.rejects_or_returns (fun _ hmem => nomatch hmem) with
        ⟨w, pointer, hreaches, hw, hreject⟩ | ⟨w, hreaches, hreturn⟩
      · -- A rejected pointer would be another end of the chain.
        cases hreaches.eq_of_stuck h (fun x => not_leads_of_rejected hw hreject)
          fun x => not_leads_of_end hnone
        cases hnone.symm.trans hw
      · rcases Relation.ReflTransGen.total_of_right_unique (leads_rightUnique document kind)
          hreaches h with hway | hway
        · exact absurd hreturn (not_transGen_of_end hway hnone)
        · rcases Relation.ReflTransGen.cases_head hway with rfl | ⟨x, hstep, _⟩
          · exact absurd hreturn (not_transGen_of_end .refl hnone)
          · exact absurd hstep (not_leads_of_end hnone)

/-! ## Chains without an end -/

/-- If every node that is reached leads on, there is a chain without an end. -/
theorem exists_chain (h : ∀ w, Reaches document kind node w → ∃ x, Leads document kind w x) :
    ∃ chain : Nat → Value, chain 0 = node ∧
      ∀ n, Leads document kind (chain n) (chain (n + 1)) := by
  -- Each node of the chain is chosen together with the way to it.
  let start : { w // Reaches document kind node w } := ⟨node, .refl⟩
  let advance (w : { w // Reaches document kind node w }) : { w // Reaches document kind node w } :=
    ⟨(h w.1 w.2).choose, w.2.tail (h w.1 w.2).choose_spec⟩
  refine ⟨fun n => (advance^[n] start).1, rfl, fun n => ?_⟩
  dsimp only
  rw [Function.iterate_succ_apply']
  exact (h _ (advance^[n] start).2).choose_spec

/-- On a chain without an end every node that is reached leads on. -/
theorem leads_of_chain {chain : Nat → Value}
    (hchain : ∀ n, Leads document kind (chain n) (chain (n + 1)))
    (h : Reaches document kind (chain 0) v) : ∃ n, v = chain n := by
  induction h with
  | refl =>
      exact ⟨0, rfl⟩
  | tail _ hstep ih =>
      obtain ⟨n, rfl⟩ := ih
      exact ⟨n + 1, leads_rightUnique document kind hstep (hchain n)⟩

/-! ## Following references -/

/-- Following references is iterating single steps.  The loop without a bound comes to the same result, and
resolves at most one pointer more than there are entries; a node is found iff it is no reference and is
reached in finitely many steps; and a reference is to blame iff the steps reach a pointer that does not
resolve, or never end. -/
theorem deref_iff_iterates (document : Value) (kind : Kind) (node : Value) :
    (∃ calls, Pursuit document kind [] node calls (deref document kind node) ∧
      calls.length ≤ entryCount document kind + 1) ∧
    (∀ v, deref document kind node = .ok v ↔ pointer? v = none ∧ Reaches document kind node v) ∧
    ((∃ e, deref document kind node = .error e ∧ e.IsReference) ↔
      (∃ e, Rejects document kind node e) ∨
        ∃ chain : Nat → Value, chain 0 = node ∧
          ∀ n, Leads document kind (chain n) (chain (n + 1))) := by
  have hfound : ∀ v, deref document kind node = .ok v ↔
      pointer? v = none ∧ Reaches document kind node v := by
    intro v
    constructor
    · intro h
      obtain ⟨calls, hpursuit, _⟩ := exists_pursuit_deref document kind node
      rw [h] at hpursuit
      obtain ⟨hreaches, hnone⟩ := hpursuit.reaches
      exact ⟨hnone, hreaches⟩
    · rintro ⟨hnone, hreaches⟩
      exact deref_of_reaches hreaches hnone
  refine ⟨exists_pursuit_deref document kind node, hfound, ?_⟩
  constructor
  · rintro ⟨e, herror, _⟩
    -- Without a rejected pointer every node that is reached is a reference that leads on.
    by_cases hreject : ∃ e, Rejects document kind node e
    · exact .inl hreject
    · refine .inr (exists_chain fun w hreaches => ?_)
      cases hpointer : pointer? w with
      | none =>
          cases herror.symm.trans ((hfound w).2 ⟨hpointer, hreaches⟩)
      | some pointer =>
          cases hresolve : resolve document kind pointer with
          | error e' =>
              exact absurd ⟨e', w, pointer, hreaches, hpointer, hresolve⟩ hreject
          | ok entries =>
              exact ⟨.map entries, pointer, entries, hpointer, hresolve, rfl⟩
  · intro hlost
    cases hderef : deref document kind node with
    | error e =>
        exact ⟨e, rfl, isReference_of_deref hderef⟩
    | ok v =>
        obtain ⟨hnone, hreaches⟩ := (hfound v).1 hderef
        rcases hlost with ⟨e, w, pointer, hw, hpointer, hreject⟩ | ⟨chain, rfl, hchain⟩
        · cases hw.eq_of_stuck hreaches (fun x => not_leads_of_rejected hpointer hreject)
            fun x => not_leads_of_end hnone
          cases hnone.symm.trans hpointer
        · obtain ⟨n, rfl⟩ := leads_of_chain hchain hreaches
          exact absurd (hchain n) (not_leads_of_end hnone)

end Reference
end ApiView
