import ApiView.Proofs.Build.Surroundings
import ApiView.Proofs.Translation.Document

/-!
# Change — a document with its operations changed

Sometimes a document is compared with one that says the same, except in its operations.  This file puts
a change of operations into the place where they are listed and leaves everything else alone:

* `Change`: what becomes of the node of an operation, and of the parameters that its path shares;
* `Change.item`, `Change.api`, `Change.document`: the change where it is made;
* `Change.alike_document`: nothing but the listing changes;
* `Change.steps_document`: the changed document is walked in the same steps, to the changed operations;
* `Change.retained_document`: it retains the changed operations.
-/

namespace ApiView

open Translation (edit edit_kept member?_edit_kept member?_edit_same)

/-- What becomes of operations: of their nodes, apart from the verbs that interfaces name there, and of
the parameters that their paths share. -/
structure Change where
  node : Entries → Entries
  shared : List Value → List Value
  method_node : ∀ entries, (node entries).member? "method" = entries.member? "method"
  shared_nil : shared [] = []

namespace Change

variable (c : Change)

/-- An operation after the change. -/
def operation (op : Operation) : Operation :=
  { op with node := c.node op.node, shared := c.shared op.shared }

/-- A step of a walk after the change. -/
def step : Step → Step
  | .visit op => .visit (c.operation op)
  | s => s

/-- A change of operations leaves a walk without any alone. -/
theorem map_step_of_no_visit {steps : List Step} :
    (∀ op, .visit op ∉ steps) → steps.map c.step = steps := by
  intro h
  refine (List.map_congr_left fun s hs => ?_).trans (List.map_id steps)
  cases s with
  | visit op =>
      exact absurd hs (h op)
  | _ =>
      rfl

/-! ## Path items -/

/-- The parameters that a path item shares, after the change. -/
def sharedValue : Value → Value
  | .list nodes => .list (c.shared nodes)
  | v => v

/-- A member of a path item: an operation, the shared parameters, or anything else. -/
def itemMember (key : Scalar) (v : Value) : Value :=
  match Verb.ofWord? (Text.toUpper key.display), v with
  | some _, .map node => .map (c.node node)
  | some _, _ => v
  | none, _ => if key = .str "parameters" then c.sharedValue v else v

/-- The members of a path item that retains an operation. -/
def item (entries : Entries) : Entries :=
  edit (fun key v => some (c.itemMember key v)) entries

/-- The steps of a changed member of a path item are changed steps. -/
theorem stepsOf_itemMember (path key : Scalar) (shared : List Value) (v : Value) :
    stepsOf path (c.shared shared) key (c.itemMember key v) = (stepsOf path shared key v).map c.step := by
  cases hverb : verbOf? key with
  | error e =>
      simp [stepsOf, hverb, step]
  | ok verb? =>
      have hword := verbOf?_eq_ok hverb
      cases verb? with
      | none =>
          -- The value under a key that is no verb is not looked at.
          by_cases hkey : key.same (.str "parameters") = true
          · simp only [stepsOf, hverb, hkey]
            rfl
          · simp only [stepsOf, hverb, hkey]
            rfl
      | some verb =>
          cases v with
          | map node =>
              simp [stepsOf, hverb, itemMember, hword, step, operation]
          | _ =>
              simp [stepsOf, hverb, itemMember, hword]

theorem ofMember?_itemMember (path key : Scalar) (shared : List Value) (v : Value) :
    Operation.ofMember? path (c.shared shared) (key, c.itemMember key v) =
      (Operation.ofMember? path shared (key, v)).map c.operation := by
  cases hword : Verb.ofWord? (Text.toUpper key.display) with
  | none =>
      -- Whatever becomes of the member, its key names no verb.
      rw [ofMember?_of_noVerb hword, ofMember?_of_noVerb hword]
      rfl
  | some verb =>
      cases v with
      | map node =>
          simp [itemMember, hword, Operation.ofMember?, operation]
      | _ =>
          simp [itemMember, hword, Operation.ofMember?]

/-- The shared parameters of a changed path item are changed ones. -/
theorem sharedParameters_item (entries : Entries) :
    sharedParameters (c.item entries) = c.shared (sharedParameters entries) := by
  have hword : Verb.ofWord? (Text.toUpper (Scalar.str "parameters").display) = none := by
    decide +kernel
  have hparameters : (c.item entries).member? "parameters" =
      (entries.member? "parameters").map c.sharedValue := by
    refine member?_edit_kept (fun v => ?_) entries
    simp [itemMember, hword]
  rw [sharedParameters, hparameters, sharedParameters]
  cases entries.member? "parameters" with
  | none =>
      exact c.shared_nil.symm
  | some v =>
      cases v with
      | list nodes =>
          rfl
      | _ =>
          exact c.shared_nil.symm

/-- The walk of a changed path item is a changed walk. -/
theorem walkItem_item (path : Scalar) (entries : Entries) :
    walkItem path (sharedParameters (c.item entries)) (c.item entries) =
      (walkItem path (sharedParameters entries) entries).map c.step := by
  rw [sharedParameters_item]
  simp only [walkItem, item, edit_kept, List.flatMap_map, List.map_flatMap, stepsOf_itemMember]

/-- The operations of a changed path item are changed ones. -/
theorem ofItem_item (path : Scalar) (entries : Entries) :
    Operation.ofItem path (c.item entries) = (Operation.ofItem path entries).map c.operation := by
  rw [Operation.ofItem, Operation.ofItem, sharedParameters_item]
  simp only [item, edit_kept, List.filterMap_map, List.map_filterMap]
  exact List.filterMap_congr fun entry _ => c.ofMember?_itemMember path entry.1 _ entry.2

/-- A path item without operations is walked to none. -/
theorem no_visit_of_ofItem {path : Scalar} {entries : Entries} :
    Operation.ofItem path entries = [] →
      ∀ op, .visit op ∉ walkItem path (sharedParameters entries) entries := by
  intro hnone op hvisit
  obtain ⟨⟨key, v⟩, hmember, hvisit⟩ := List.mem_flatMap.1 hvisit
  have hmem : op ∈ Operation.ofItem path entries :=
    List.mem_filterMap.2 ⟨(key, v), hmember, ofMember?_of_visit hvisit⟩
  rw [hnone] at hmem
  cases hmem

/-! ## Interfaces -/

/-- The verb that an item of an interface names, unless the walk leaves it out. -/
def legacyVerb? (node : Entries) : Option Verb :=
  (Verb.ofWord? (Text.toUpper ((Entries.member? node "method").getD (.str "")).display)).filter
    (· != .options)

/-- An item of an interface: an operation, or anything else. -/
def apiOperation : Value → Value
  | .map node => if (legacyVerb? node).isSome then .map (c.node node) else .map node
  | v => v

/-- The operations of an interface. -/
def apiOperations : Value → Value
  | .list operations => .list (operations.map c.apiOperation)
  | v => v

/-- The members of an interface. -/
def api (entries : Entries) : Entries :=
  edit (fun key v => some (if key = .str "operations" then c.apiOperations v else v)) entries

theorem member?_path_api (entries : Entries) : (c.api entries).member? "path" = entries.member? "path" :=
  member?_edit_same (fun v => by simp) entries

theorem member?_operations_api (entries : Entries) :
    (c.api entries).member? "operations" = (entries.member? "operations").map c.apiOperations :=
  member?_edit_kept (fun v => by simp) entries

theorem ofLegacy?_map (path : String) (node : Entries) :
    Operation.ofLegacy? path (.map node) =
      (legacyVerb? node).map fun verb => ⟨.str path, verb, node, []⟩ := rfl

theorem legacyVerb?_node (node : Entries) : legacyVerb? (c.node node) = legacyVerb? node := by
  rw [legacyVerb?, c.method_node, legacyVerb?]

theorem ofLegacy?_of_visit {path : String} {v : Value} {op : Operation} :
    .visit op ∈ legacyStepsOf path v → Operation.ofLegacy? path v = some op := by
  intro h
  cases v with
  | map node =>
      cases hmethod : ((Entries.member? node "method").getD (.str "")).displayed with
      | error e =>
          simp [legacyStepsOf, hmethod] at h
      | ok method =>
          simp only [legacyStepsOf, hmethod] at h
          simp only [Operation.ofLegacy?, Value.displayed_eq_ok hmethod]
          split at h
          · simp at h
          · simp at h
          · rename_i verb hoptions hverb
            simp only [List.mem_singleton, Step.visit.injEq] at h
            have hkept : (verb != .options) = true := by
              rw [bne_iff_ne]
              exact hoptions
            simp [hverb, Option.filter, hkept, h]
  | _ =>
      cases h

theorem ofLegacy?_apiOperation (path : String) (v : Value) :
    Operation.ofLegacy? path (c.apiOperation v) = (Operation.ofLegacy? path v).map c.operation := by
  cases v with
  | map node =>
      cases hverb : legacyVerb? node with
      | none =>
          simp [apiOperation, ofLegacy?_map, hverb]
      | some verb =>
          simp [apiOperation, ofLegacy?_map, legacyVerb?_node, hverb, operation, c.shared_nil]
  | _ =>
      rfl

/-- The steps of a changed legacy node are changed steps. -/
theorem legacyStepsOf_apiOperation (path : String) (v : Value) :
    legacyStepsOf path (c.apiOperation v) = (legacyStepsOf path v).map c.step := by
  cases v with
  | map node =>
      cases hverb : legacyVerb? node with
      | none =>
          -- An item that the walk leaves out is left alone, and there is no operation to change.
          have hsame : c.apiOperation (.map node) = .map node := by
            simp [apiOperation, hverb]
          rw [hsame, c.map_step_of_no_visit]
          intro op hvisit
          have hop := ofLegacy?_of_visit hvisit
          rw [ofLegacy?_map, hverb] at hop
          cases hop
      | some verb =>
          have hchanged : c.apiOperation (.map node) = .map (c.node node) := by
            simp [apiOperation, hverb]
          rw [hchanged, legacyStepsOf, legacyStepsOf, c.method_node]
          split
          · rfl
          · dsimp only
            split
            · rfl
            · rfl
            · simp [step, operation, c.shared_nil]
  | _ =>
      rfl

/-- The operations of an interface are iterated one by one, whatever they are listed in. -/
theorem iterate_apiOperations (v : Value) :
    (c.apiOperations v).iterate = v.iterate.map fun operations => operations.map c.apiOperation := by
  -- What is iterated and is no list gives a row of leaves, and these stay the same.
  have hleaves : v.items? = none →
      v.iterate = v.iterate.map fun operations => operations.map c.apiOperation := by
    intro hnone
    cases hiterate : v.iterate with
    | error e =>
        rfl
    | ok items =>
        obtain hsome | ⟨_, leaves, rfl⟩ := Value.iterate_eq_ok hiterate
        · rw [hnone] at hsome
          cases hsome
        · simp [Except.map, apiOperation]
  cases v with
  | list operations =>
      rfl
  | _ =>
      exact hleaves rfl

theorem legacyOperations_api (entries : Entries) :
    legacyOperations (c.api entries) =
      (legacyOperations entries).map fun found => (found.1, found.2.map c.apiOperation) := by
  have hoperations : (c.api entries).member "operations" =
      c.apiOperations (entries.member "operations") := by
    rw [Entries.member, Entries.member, member?_operations_api]
    cases entries.member? "operations" <;> rfl
  have htruthy : ∀ v, (c.apiOperations v).truthy = v.truthy := by
    intro v
    cases v with
    | list operations =>
        cases operations <;> rfl
    | _ =>
        rfl
  simp only [legacyOperations, member?_path_api, hoperations, htruthy, iterate_apiOperations]
  cases ((entries.member? "path").getD (.str "")).displayed with
  | error e =>
      rfl
  | ok path =>
      simp only [ok_bind]
      split
      · cases (entries.member "operations").iterate <;> rfl
      · rfl

/-- The walk of a changed legacy interface is a changed walk. -/
theorem walkApi_api (entries : Entries) :
    walkApi (c.api entries) = (walkApi entries).map c.step := by
  rw [walkApi, legacyOperations_api, walkApi]
  cases legacyOperations entries with
  | error e =>
      rfl
  | ok found =>
      simp only [Except.map, List.flatMap_map, List.map_flatMap, legacyStepsOf_apiOperation]

theorem ofApi_api (entries : Entries) :
    Operation.ofApi (c.api entries) = (Operation.ofApi entries).map c.operation := by
  have hlisted : (((c.api entries).member? "operations").bind Value.items?).getD [] =
      (((entries.member? "operations").bind Value.items?).getD []).map c.apiOperation := by
    rw [member?_operations_api]
    cases entries.member? "operations" with
    | none =>
        rfl
    | some v =>
        cases v <;> rfl
  simp only [Operation.ofApi, member?_path_api, hlisted, List.filterMap_map, List.map_filterMap]
  exact List.filterMap_congr fun v _ => c.ofLegacy?_apiOperation _ v

/-! ## Documents -/

/-- The members of an item of a listing.  A path item without operations is left alone. -/
def itemEntries (grammar : Grammar) (path : Scalar) (entries : Entries) : Entries :=
  match grammar with
  | .legacy => c.api entries
  | .swagger2 | .openApi3 => if Operation.ofItem path entries = [] then entries else c.item entries

/-- An item of a listing. -/
def itemValue (grammar : Grammar) (path : Scalar) : Value → Value
  | .map entries => .map (c.itemEntries grammar path entries)
  | v => v

/-- A listing of operations. -/
def listed : Grammar → Value → Value
  | .legacy, .list apis => .list (apis.map (c.itemValue .legacy .null))
  | .swagger2, .map table => .map (edit (fun path v => some (c.itemValue .swagger2 path v)) table)
  | .openApi3, .map table => .map (edit (fun path v => some (c.itemValue .openApi3 path v)) table)
  | _, v => v

/-- A document with its operations changed. -/
def document (grammar : Grammar) (d : Entries) : Entries :=
  edit (fun key v => some (if key = .str (Build.listing grammar) then c.listed grammar v else v)) d

/-- A change of operations changes nothing outside their listing. -/
theorem alike_document (grammar : Grammar) (d : Entries) :
    Build.Alike grammar d (c.document grammar d) := by
  intro name hname
  refine (member?_edit_same (fun v => ?_) d).symm
  simp [hname]

/-- The items of a changed document are changed ones. -/
theorem items_document (grammar : Grammar) (d : Entries) :
    Build.items grammar (c.document grammar d) =
      (Build.items grammar d).map fun item => (item.1, c.itemValue grammar item.1 item.2) := by
  have hmember : (c.document grammar d).member (Build.listing grammar) =
      c.listed grammar (d.member (Build.listing grammar)) := by
    have hfound : (c.document grammar d).member? (Build.listing grammar) =
        (d.member? (Build.listing grammar)).map (c.listed grammar) :=
      member?_edit_kept (fun v => by simp) d
    rw [Entries.member, Entries.member, hfound]
    cases d.member? (Build.listing grammar) with
    | none =>
        cases grammar <;> rfl
    | some v =>
        rfl
  rw [Build.items, Build.items, hmember]
  generalize d.member (Build.listing grammar) = v
  -- Anything that does not list operations in the way of its grammar has no items.
  cases grammar with
  | legacy =>
      cases v with
      | list apis =>
          simp [listed, Build.listedItems, Value.items?, Function.comp_def]
      | _ =>
          rfl
  | swagger2 =>
      cases v with
      | map table =>
          simp [listed, Build.listedItems, Value.entries?, edit_kept]
      | _ =>
          rfl
  | openApi3 =>
      cases v with
      | map table =>
          simp [listed, Build.listedItems, Value.entries?, edit_kept]
      | _ =>
          rfl

/-- Item by item, the changed document is walked to the changed operations. -/
theorem itemSteps_itemValue (grammar : Grammar) (path : Scalar) (v : Value) :
    Build.itemSteps grammar (path, c.itemValue grammar path v) =
      (Build.itemSteps grammar (path, v)).map c.step := by
  have hpath : ∀ entries,
      walkItem path
          (sharedParameters (if Operation.ofItem path entries = [] then entries else c.item entries))
          (if Operation.ofItem path entries = [] then entries else c.item entries) =
        (walkItem path (sharedParameters entries) entries).map c.step := by
    intro entries
    by_cases hnone : Operation.ofItem path entries = []
    · rw [if_pos hnone, c.map_step_of_no_visit (no_visit_of_ofItem hnone)]
    · rw [if_neg hnone, walkItem_item]
  cases v with
  | map entries =>
      cases grammar with
      | legacy =>
          exact c.walkApi_api entries
      | swagger2 =>
          exact hpath entries
      | openApi3 =>
          exact hpath entries
  | _ =>
      cases grammar <;> rfl

theorem itemOperations_itemValue (grammar : Grammar) (path : Scalar) (v : Value) :
    Build.itemOperations grammar (path, c.itemValue grammar path v) =
      (Build.itemOperations grammar (path, v)).map c.operation := by
  have hpath : ∀ entries,
      Operation.ofItem path (if Operation.ofItem path entries = [] then entries else c.item entries) =
        (Operation.ofItem path entries).map c.operation := by
    intro entries
    by_cases hnone : Operation.ofItem path entries = []
    · rw [if_pos hnone, hnone]
      rfl
    · rw [if_neg hnone, ofItem_item]
  cases v with
  | map entries =>
      cases grammar with
      | legacy =>
          exact c.ofApi_api entries
      | swagger2 =>
          exact hpath entries
      | openApi3 =>
          exact hpath entries
  | _ =>
      cases grammar <;> rfl

/-- The walk of a changed document is a changed walk. -/
theorem steps_document (grammar : Grammar) (d : Entries) :
    Build.steps grammar (c.document grammar d) = (Build.steps grammar d).map c.step := by
  calc
    Build.steps grammar (c.document grammar d)
        = (Build.items grammar d).flatMap fun item =>
            Build.itemSteps grammar (item.1, c.itemValue grammar item.1 item.2) := by
          rw [Build.steps_eq_flatMap, items_document, List.flatMap_map]
    _ = (Build.items grammar d).flatMap fun item => (Build.itemSteps grammar item).map c.step :=
          List.flatMap_congr fun item _ => c.itemSteps_itemValue grammar item.1 item.2
    _ = (Build.steps grammar d).map c.step := by
          rw [Build.steps_eq_flatMap, List.map_flatMap]

/-- The operations that are retained of a changed document are changed ones. -/
theorem retained_document (grammar : Grammar) (d : Entries) :
    Build.retained grammar (c.document grammar d) = (Build.retained grammar d).map c.operation := by
  calc
    Build.retained grammar (c.document grammar d)
        = (Build.items grammar d).flatMap fun item =>
            Build.itemOperations grammar (item.1, c.itemValue grammar item.1 item.2) := by
          rw [Build.retained_eq_flatMap, items_document, List.flatMap_map]
    _ = (Build.items grammar d).flatMap fun item =>
          (Build.itemOperations grammar item).map c.operation :=
          List.flatMap_congr fun item _ => c.itemOperations_itemValue grammar item.1 item.2
    _ = (Build.retained grammar d).map c.operation := by
          rw [Build.retained_eq_flatMap, List.map_flatMap]

end Change
end ApiView
