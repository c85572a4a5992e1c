import ApiView.Proofs.Build.Outline
import ApiView.Proofs.Thinned

/-!
# Ignored — the parts of a document that no method is built from

Much of a document is passed over: path items that are no mappings, members of a path item that are no
operations, responses of failure, parameters that are dropped.  This file relates a document to what is
left of it when any of these are taken out, at every level at once:

* `Ignored`, `Unsuccessful`, `Idle`: what may be taken out at which level;
* `ThinnedNode`, `ThinnedItem`, `ThinnedTable`, `ThinnedDocument`: operations, path items, tables of
  paths and whole documents;
* `alike_of_thinnedDocument`, `retained_of_thinned`, `unbroken_of_thinned`: the operations that are left
  are the same, each thinned at most;
* `member?_of_thinnedNode`, `parameterNodes_of_thinned`, `responses_of_thinnedNode`: what is left of an
  operation.
-/

namespace ApiView
namespace Build

/-! ## What is passed over -/

/-- A parameter node that is dropped: its references lead to no mapping, or to a node that is not
classified for the target. -/
def Ignored (setup : Setup) (raw : Value) : Prop :=
  ∃ node, setup.deref .parameter raw = .ok node ∧
    (node.isMap = false ∨ (Parameter.classify setup.serverSide "in" node).outcome = .ok none)

/-- A response under a status that is not one of success. -/
def Unsuccessful (entry : Scalar × Value) : Prop :=
  entry.1.display ≠ "200" ∧ entry.1.display ≠ "201"

/-- The verb that a key names in capitals. -/
def keyVerb? (key : Scalar) : Option Verb :=
  Verb.ofWord? (Text.toUpper key.display)

/-- A member of a path item that is no operation and no row of parameters: its key names no verb, or its
value is no mapping. -/
def Idle (entry : Scalar × Value) : Prop :=
  (keyVerb? entry.1 = none ∧ entry.1 ≠ .str "parameters") ∨
    ((keyVerb? entry.1).isSome = true ∧ entry.2.isMap = false)

/-! ## Thinned documents -/

variable {setup : Setup}

/-- Of an operation, dropped parameters and responses of failure are left out. -/
def ThinnedNode (setup : Setup) : Entries → Entries → Prop :=
  Entries.Thinned (fun _ => False) fun key v v' =>
    v' = v ∨ (key = .str "parameters" ∧ v.ThinnedList (Ignored setup) v') ∨
      (key = .str "responses" ∧ v.ThinnedMap Unsuccessful (fun _ => Eq) v')

/-- Of a path item, idle members and dropped parameters are left out, and operations are thinned. -/
def ThinnedItem (setup : Setup) : Entries → Entries → Prop :=
  Entries.Thinned Idle fun key v v' =>
    v' = v ∨ (key = .str "parameters" ∧ v.ThinnedList (Ignored setup) v') ∨
      ((keyVerb? key).isSome = true ∧ ∃ node node', v = .map node ∧ v' = .map node' ∧
        ThinnedNode setup node node')

/-- Of a table of paths, what is no path item is left out, and path items are thinned. -/
def ThinnedTable (setup : Setup) : Entries → Entries → Prop :=
  Entries.Thinned (fun entry => entry.2.isMap = false) fun _ v v' =>
    v' = v ∨ ∃ item item', v = .map item ∧ v' = .map item' ∧ ThinnedItem setup item item'

/-- Of a document, the table of paths is thinned. -/
def ThinnedDocument (setup : Setup) : Entries → Entries → Prop :=
  Entries.Thinned (fun _ => False) fun key v v' =>
    v' = v ∨ (key = .str "paths" ∧ ∃ table table', v = .map table ∧ v' = .map table' ∧
      ThinnedTable setup table table')

/-- Operations at the same place, of which one has its node and its shared parameters thinned. -/
structure ThinnedOperation (setup : Setup) (op op' : Operation) : Prop where
  path : op'.path = op.path
  verb : op'.verb = op.verb
  node : ThinnedNode setup op.node op'.node
  shared : Thinned (Ignored setup) Eq op.shared op'.shared

theorem thinnedNode_refl (node : Entries) : ThinnedNode setup node node :=
  Thinned.refl (fun _ => ⟨rfl, Or.inl rfl⟩) node

/-! ## The operations of a path item -/

/-- The word for a row of parameters is no verb. -/
theorem keyVerb?_parameters : keyVerb? (.str "parameters") = none := by
  decide +kernel

theorem not_idle_parameters (v : Value) : ¬ Idle (.str "parameters", v) := by
  rintro (⟨_, hother⟩ | ⟨hverb, _⟩)
  · exact hother rfl
  · rw [keyVerb?_parameters] at hverb
    cases hverb

theorem ofMember?_map (path : Scalar) (shared : List Value) (key : Scalar) (node : Entries) :
    Operation.ofMember? path shared (key, .map node) =
      (keyVerb? key).map fun verb => ⟨path, verb, node, shared⟩ := rfl

theorem ofMember?_of_not_isMap {path key : Scalar} {shared : List Value} {v : Value} :
    v.isMap = false → Operation.ofMember? path shared (key, v) = none := by
  intro h
  cases v with
  | map node =>
      cases h
  | _ =>
      rfl

/-- An idle member is no operation. -/
theorem ofMember?_of_idle {path : Scalar} {shared : List Value} {entry : Scalar × Value} :
    Idle entry → Operation.ofMember? path shared entry = none := by
  rintro (⟨hnone, _⟩ | ⟨_, hmap⟩)
  · exact ofMember?_of_noVerb hnone
  · exact ofMember?_of_not_isMap hmap

/-- The shared parameters of a thinned path item are thinned. -/
theorem sharedParameters_of_thinned {item item' : Entries} :
    ThinnedItem setup item item' →
      Thinned (Ignored setup) Eq (sharedParameters item) (sharedParameters item') := by
  intro h
  refine Entries.Thinned.listMember not_idle_parameters ?_ h
  -- A row of parameters is kept as it is or thinned; it cannot be kept as an operation.
  rintro v v' (rfl | ⟨_, hlist⟩ | ⟨hverb, _⟩)
  · exact Or.inl rfl
  · exact hlist
  · rw [keyVerb?_parameters] at hverb
    cases hverb

/-- The operation of a mapping, before and after it is thinned. -/
theorem ofMember?_of_thinnedNode {path key : Scalar} {shared shared' : List Value}
    {node node' : Entries} (hshared : Thinned (Ignored setup) Eq shared shared') :
    ThinnedNode setup node node' →
      List.Forall₂ (ThinnedOperation setup) (Operation.ofMember? path shared (key, .map node)).toList
        (Operation.ofMember? path shared' (key, .map node')).toList := by
  intro h
  rw [ofMember?_map, ofMember?_map]
  cases keyVerb? key with
  | none =>
      exact List.Forall₂.nil
  | some verb =>
      exact List.Forall₂.cons ⟨rfl, rfl, h, hshared⟩ List.Forall₂.nil

/-- The operations of a thinned path item are thinned. -/
theorem ofItem_of_thinned {path : Scalar} {item item' : Entries} (h : ThinnedItem setup item item') :
    List.Forall₂ (ThinnedOperation setup) (Operation.ofItem path item)
      (Operation.ofItem path item') := by
  have hshared := sharedParameters_of_thinned h
  rw [Operation.ofItem, Operation.ofItem, List.filterMap_eq_flatMap_toList,
    List.filterMap_eq_flatMap_toList]
  refine h.forall₂_flatMap (fun entry hidle => ?_) ?_
  · rw [ofMember?_of_idle hidle]
    rfl
  · rintro ⟨key, v⟩ ⟨key', v'⟩ ⟨hkey, hkept⟩
    dsimp only at hkey hkept
    subst hkey
    -- The member is as before, a row of parameters, or an operation that is thinned.
    rcases hkept with rfl | ⟨rfl, _⟩ | ⟨_, node, node', rfl, rfl, hnode⟩
    · by_cases hmap : v'.isMap = true
      · cases v' with
        | map node =>
            exact ofMember?_of_thinnedNode hshared (thinnedNode_refl node)
        | _ =>
            cases hmap
      · rw [Bool.not_eq_true] at hmap
        rw [ofMember?_of_not_isMap hmap, ofMember?_of_not_isMap hmap]
        exact List.Forall₂.nil
    · -- A row of parameters is no operation, whatever it holds.
      rw [ofMember?_of_noVerb keyVerb?_parameters,
        ofMember?_of_noVerb keyVerb?_parameters]
      exact List.Forall₂.nil
    · exact ofMember?_of_thinnedNode hshared hnode

/-! ## The operations of a document -/

variable {grammar : Grammar} {d d' : Entries}

theorem thinnedOperation_refl (op : Operation) : ThinnedOperation setup op op :=
  ⟨rfl, rfl, thinnedNode_refl op.node, Thinned.refl (fun _ => rfl) op.shared⟩

theorem thinnedTable_refl (table : Entries) : ThinnedTable setup table table :=
  Thinned.refl (fun _ => ⟨rfl, Or.inl rfl⟩) table

/-- The tables of paths of both documents. -/
theorem thinnedTable_of_thinnedDocument (h : ThinnedDocument setup d d') :
    ThinnedTable setup ((d.member "paths").entries?.getD [])
      ((d'.member "paths").entries?.getD []) := by
  have hmember := Entries.Thinned.member? "paths" (fun _ => not_false) h
  unfold Entries.member
  generalize d.member? "paths" = v? at hmember
  generalize d'.member? "paths" = v?' at hmember
  cases hmember with
  | none =>
      exact thinnedTable_refl []
  | some hpaths =>
      rcases hpaths with rfl | ⟨_, table, table', rfl, rfl, htable⟩
      · exact thinnedTable_refl _
      · exact htable

/-- Apart from the table of paths, both documents say the same. -/
theorem alike_of_thinnedDocument (hgrammar : grammar ≠ .legacy) (h : ThinnedDocument setup d d') :
    Alike grammar d d' := by
  intro name hname
  have hpaths : name ≠ "paths" := by
    cases grammar with
    | legacy =>
        exact absurd rfl hgrammar
    | _ =>
        exact hname
  refine (Entries.Thinned.member?_eq (fun _ => not_false) ?_ h).symm
  rintro v v' (rfl | ⟨heq, _⟩)
  · rfl
  · cases heq
    exact absurd rfl hpaths

/-- Of a thinned table every operation is retained, and each is thinned at most. -/
theorem ofPaths_of_thinned {table table' : Entries} (h : ThinnedTable setup table table') :
    List.Forall₂ (ThinnedOperation setup)
      (table.flatMap fun (path, item) => Operation.ofItem path (item.entries?.getD []))
      (table'.flatMap fun (path, item) => Operation.ofItem path (item.entries?.getD [])) := by
  refine h.forall₂_flatMap ?_ ?_
  · rintro ⟨path, v⟩ hmap
    cases v with
    | map item =>
        cases hmap
    | _ =>
        rfl
  · rintro ⟨path, v⟩ ⟨path', v'⟩ ⟨hpath, hkept⟩
    dsimp only at hpath hkept
    subst hpath
    rcases hkept with rfl | ⟨item, item', rfl, rfl, hitem⟩
    · exact List.forall₂_same.2 fun op _ => thinnedOperation_refl op
    · exact ofItem_of_thinned hitem

theorem retained_of_thinned (hgrammar : grammar ≠ .legacy) (h : ThinnedDocument setup d d') :
    List.Forall₂ (ThinnedOperation setup) (retained grammar d) (retained grammar d') := by
  have htable := ofPaths_of_thinned (thinnedTable_of_thinnedDocument h)
  cases grammar with
  | legacy =>
      exact absurd rfl hgrammar
  | _ =>
      exact htable

/-! ## Walks that break off -/

/-- A member of a path item breaks a walk off iff its key cannot be shown. -/
theorem broken_mem_stepsOf_iff {path key : Scalar} {shared : List Value} {v : Value} {e : Failure} :
    .broken e ∈ stepsOf path shared key v ↔ verbOf? key = .error e := by
  unfold stepsOf
  cases verbOf? key with
  | error e' =>
      simp [eq_comm]
  | ok verb? =>
      cases verb? with
      | none =>
          by_cases hshared : key.same (.str "parameters") = true <;> simp [hshared]
      | some verb =>
          cases v <;> simp

theorem broken_mem_walkItem_iff {path : Scalar} {shared : List Value} {item : Entries} {e : Failure} :
    .broken e ∈ walkItem path shared item ↔ ∃ entry ∈ item, verbOf? entry.1 = .error e := by
  simp only [walkItem, List.mem_flatMap, broken_mem_stepsOf_iff]

/-- What breaks the walk of a thinned path item off has broken it off before. -/
theorem broken_of_thinnedItem {path : Scalar} {shared shared' : List Value} {item item' : Entries}
    {e : Failure} (h : ThinnedItem setup item item') :
    .broken e ∈ walkItem path shared' item' → .broken e ∈ walkItem path shared item := by
  rw [broken_mem_walkItem_iff, broken_mem_walkItem_iff]
  rintro ⟨entry', hentry', hbroken⟩
  obtain ⟨entry, hentry, hkey, _⟩ := h.exists_of_mem hentry'
  exact ⟨entry, hentry, by rwa [← hkey]⟩

/-- A walk that breaks off after thinning broke off before. -/
theorem broken_of_thinnedTable {table table' : Entries} {e : Failure}
    (h : ThinnedTable setup table table') :
    .broken e ∈ walkTable table' → .broken e ∈ walkTable table := by
  rw [walkTable_eq_flatMap, walkTable_eq_flatMap, List.mem_flatMap, List.mem_flatMap]
  rintro ⟨⟨path', v'⟩, hentry', hbroken⟩
  obtain ⟨⟨path, v⟩, hentry, hpath, hkept⟩ := h.exists_of_mem hentry'
  dsimp only at hpath hkept
  subst hpath
  refine ⟨(path', v), hentry, ?_⟩
  rcases hkept with rfl | ⟨item, item', rfl, rfl, hitem⟩
  · exact hbroken
  · exact broken_of_thinnedItem hitem hbroken

/-- A thinned document is walked to its end if the document is. -/
theorem unbroken_of_thinned (hgrammar : grammar ≠ .legacy) (h : ThinnedDocument setup d d') :
    (∀ e, .broken e ∉ steps grammar d) → ∀ e, .broken e ∉ steps grammar d' := by
  intro hunbroken e hbroken
  have htable := thinnedTable_of_thinnedDocument h
  refine hunbroken e ?_
  cases grammar with
  | legacy =>
      exact absurd rfl hgrammar
  | _ =>
      exact broken_of_thinnedTable htable hbroken

/-! ## The members of an operation -/

/-- Apart from its parameters and responses, a thinned operation says the same. -/
theorem member?_of_thinnedNode {node node' : Entries} {name : String}
    (h : ThinnedNode setup node node') (hname : name ∉ ["parameters", "responses"]) :
    node'.member? name = node.member? name := by
  simp only [List.mem_cons, List.not_mem_nil, or_false, not_or] at hname
  refine Entries.Thinned.member?_eq (fun _ => not_false) ?_ h
  rintro v v' (rfl | ⟨heq, _⟩ | ⟨heq, _⟩)
  · rfl
  · cases heq
    exact absurd rfl hname.1
  · cases heq
    exact absurd rfl hname.2

/-- The parameter nodes of a thinned operation are thinned. -/
theorem parameterNodes_of_thinned (hgrammar : grammar ≠ .legacy) {op op' : Operation}
    (h : ThinnedOperation setup op op') :
    Thinned (Ignored setup) Eq (parameterNodes grammar op) (parameterNodes grammar op') := by
  have hown : Thinned (Ignored setup) Eq (listMember op.node "parameters")
      (listMember op'.node "parameters") := by
    refine Entries.Thinned.listMember (fun _ => not_false) ?_ h.node
    rintro v v' (rfl | ⟨_, hlist⟩ | ⟨heq, _⟩)
    · exact Or.inl rfl
    · exact hlist
    · exact absurd heq (by decide)
  cases grammar with
  | legacy =>
      exact absurd rfl hgrammar
  | _ =>
      exact hown.append h.shared

/-- The responses of a thinned operation are thinned. -/
theorem responses_of_thinnedNode {node node' : Entries} (h : ThinnedNode setup node node') :
    (node.member "responses").ThinnedMap Unsuccessful (fun _ => Eq) (node'.member "responses") := by
  have hmember := Entries.Thinned.member? "responses" (fun _ => not_false) h
  unfold Entries.member
  generalize node.member? "responses" = v? at hmember
  generalize node'.member? "responses" = v?' at hmember
  cases hmember with
  | none =>
      exact Or.inl rfl
  | some hkept =>
      rcases hkept with rfl | ⟨heq, _⟩ | ⟨_, hmap⟩
      · exact Or.inl rfl
      · exact absurd heq (by decide)
      · exact hmap

end Build
end ApiView
