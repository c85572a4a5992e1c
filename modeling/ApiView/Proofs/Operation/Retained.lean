import ApiView.Build.View
import ApiView.Proofs.Members

/-!
# Retained — which operations a walk keeps

The walk of a document goes step by step and may break off.  This file lists the operations that a
document retains without walking it, and shows that a walk that does not break off finds these
operations, in this order:

* `Operation.ofPaths`: the members of path items whose keys are verbs and whose values are mappings;
* `Operation.ofApis`: the operation objects of legacy interfaces whose methods are verbs, `OPTIONS`
  apart;
* `Build.retained`: the operations of a document, by its grammar;
* `operationsOf_steps`: a walk finds the retained operations and no others.
-/

namespace ApiView

/-! ## Operations by their places -/

namespace Operation

/-- The operation that a member of a path item stands for: its key, in capitals, is a verb and its
value is a mapping. -/
def ofMember? (path : Scalar) (shared : List Value) : Scalar × Value → Option Operation
  | (key, .map node) =>
    (Verb.ofWord? (Text.toUpper key.display)).map fun verb => ⟨path, verb, node, shared⟩
  | _ => none

/-- The operations of a path item. -/
def ofItem (path : Scalar) (item : Entries) : List Operation :=
  item.filterMap (ofMember? path (sharedParameters item))

/-- The operations of a table of paths. -/
def ofPaths (paths : Value) : List Operation :=
  (paths.entries?.getD []).flatMap fun (path, item) => ofItem path (item.entries?.getD [])

/-- The operation that an item of a legacy interface stands for: it is a mapping and its method, in
capitals, is a verb other than `OPTIONS`. -/
def ofLegacy? (path : String) : Value → Option Operation
  | .map node =>
    let method := ((Entries.member? node "method").getD (.str "")).display
    ((Verb.ofWord? (Text.toUpper method)).filter (· != .options)).map fun verb =>
      ⟨.str path, verb, node, []⟩
  | _ => none

/-- The operations of a legacy interface. -/
def ofApi (api : Entries) : List Operation :=
  let path := ((api.member? "path").getD (.str "")).display
  (((api.member? "operations").bind Value.items?).getD []).filterMap (ofLegacy? path)

/-- The operations of a list of legacy interfaces. -/
def ofApis (apis : Value) : List Operation :=
  (apis.items?.getD []).flatMap fun api => ofApi (api.entries?.getD [])

end Operation

namespace Build

/-- The operations that a document retains, in document order. -/
def retained : Grammar → Entries → List Operation
  | .legacy, document => Operation.ofApis (document.member "apis")
  | .swagger2, document | .openApi3, document => Operation.ofPaths (document.member "paths")

end Build

/-! ## Displays of keys -/

theorem Value.displayed_eq_ok {v : Value} {s : String} :
    v.displayed = .ok s → v.display = s := by
  intro h
  unfold Value.displayed at h
  split at h
  · cases h
  · simpa using h

/-! ## Walks piece by piece -/

@[simp]
theorem operationsOf_nil : operationsOf [] = .ok [] := rfl

@[simp]
theorem operationsOf_visit (operation : Operation) :
    operationsOf [.visit operation] = .ok [operation] := rfl

@[simp]
theorem operationsOf_skip (line : LogLine) (rest : List Step) :
    operationsOf (.skip line :: rest) = operationsOf rest := rfl

@[simp]
theorem operationsOf_broken (e : Failure) (rest : List Step) :
    operationsOf (.broken e :: rest) = .error e := rfl

/-- The operations of a walk in two parts are those of the parts. -/
theorem operationsOf_append (xs ys : List Step) :
    operationsOf (xs ++ ys) = do
      let before ← operationsOf xs
      let after ← operationsOf ys
      return before ++ after := by
  induction xs with
  | nil =>
      cases h : operationsOf ys <;> simp [h, bind, Except.bind, pure, Except.pure]
  | cons step rest ih =>
      cases step with
      | visit operation =>
          simp only [List.cons_append, operationsOf, ih]
          cases operationsOf rest <;> cases operationsOf ys <;> rfl
      | skip line =>
          simpa only [List.cons_append, operationsOf] using ih
      | broken e =>
          rfl

/-- Pieces that find the operations `g` find them one piece after the other. -/
theorem operationsOf_flatMap {α : Type} {f : α → List Step} {g : α → List Operation}
    (hpiece : ∀ x ops, operationsOf (f x) = .ok ops → ops = g x) :
    ∀ {xs : List α} {ops : List Operation},
      operationsOf (xs.flatMap f) = .ok ops → ops = xs.flatMap g := by
  intro xs
  induction xs with
  | nil =>
      intro ops h
      cases h
      rfl
  | cons x xs ih =>
      intro ops h
      simp only [List.flatMap_cons, operationsOf_append, bind_eq_ok_iff, pure_eq_ok_iff] at h
      rcases h with ⟨before, hbefore, after, hafter, rfl⟩
      rw [hpiece x before hbefore, ih hafter, List.flatMap_cons]

/-! ## Tables of paths -/

theorem verbOf?_eq_ok {key : Scalar} {verb? : Option Verb} :
    verbOf? key = .ok verb? → Verb.ofWord? (Text.toUpper key.display) = verb? := by
  intro h
  simp only [verbOf?, bind_eq_ok_iff, pure_eq_ok_iff] at h
  rcases h with ⟨word, hword, hverb⟩
  rw [← hverb, ← Value.displayed_eq_ok hword]
  rfl

/-- A member of a path item gives the operation that it is, if any. -/
theorem operationsOf_stepsOf {path : Scalar} {shared : List Value} {key : Scalar} {v : Value}
    {ops : List Operation} :
    operationsOf (stepsOf path shared key v) = .ok ops →
      ops = (Operation.ofMember? path shared (key, v)).toList := by
  intro h
  unfold stepsOf at h
  cases hverb : verbOf? key with
  | error e =>
      simp [hverb] at h
  | ok verb? =>
      have hword := verbOf?_eq_ok hverb
      rw [hverb] at h
      cases verb? with
      | none =>
          -- A key that is no verb is mentioned at most.
          have hnone : ops = [] := by
            by_cases hshared : key.same (.str "parameters") = true
            · simp only [hshared, if_true] at h
              cases h
              rfl
            · simp only [hshared] at h
              cases h
              rfl
          cases v <;> simp [Operation.ofMember?, hword, hnone]
      | some verb =>
          cases v <;> cases h <;> simp [Operation.ofMember?, hword]

/-- The walk of a path item gives its operations. -/
theorem operationsOf_walkItem {path : Scalar} {item : Entries} {ops : List Operation} :
    operationsOf (walkItem path (sharedParameters item) item) = .ok ops →
      ops = Operation.ofItem path item := by
  intro h
  have hmembers := operationsOf_flatMap
    (g := fun member => (Operation.ofMember? path (sharedParameters item) member).toList)
    (fun _ _ => operationsOf_stepsOf) h
  rw [hmembers, Operation.ofItem, ← List.filterMap_eq_flatMap_toList]

/-- A table of paths is walked item by item. -/
theorem walkTable_eq_flatMap (table : Entries) :
    walkTable table = table.flatMap fun (path, item) =>
      walkItem path (sharedParameters (item.entries?.getD [])) (item.entries?.getD []) := by
  induction table with
  | nil =>
      rfl
  | cons entry rest ih =>
      rcases entry with ⟨path, item⟩
      cases item with
      | map members =>
          simp [walkTable, ih, Value.entries?]
      | _ =>
          simpa [walkTable, walkItem, Value.entries?] using ih

/-- The walk of the paths of a document gives their operations. -/
theorem operationsOf_walkPaths {paths : Value} {ops : List Operation} :
    operationsOf (walkPaths paths) = .ok ops → ops = Operation.ofPaths paths := by
  intro h
  rw [walkPaths, walkTable_eq_flatMap] at h
  exact operationsOf_flatMap (fun _ _ => operationsOf_walkItem) h

/-- A key that names no verb stands for no operation, whatever is under it. -/
theorem ofMember?_of_noVerb {path key : Scalar} {shared : List Value} {v : Value} :
    Verb.ofWord? (Text.toUpper key.display) = none →
      Operation.ofMember? path shared (key, v) = none := by
  intro hword
  cases v <;> simp [Operation.ofMember?, hword]

/-- An operation that is visited is one of its member. -/
theorem ofMember?_of_visit {path : Scalar} {shared : List Value} {key : Scalar} {v : Value}
    {op : Operation} :
    .visit op ∈ stepsOf path shared key v → Operation.ofMember? path shared (key, v) = some op := by
  intro h
  unfold stepsOf at h
  cases hverb : verbOf? key with
  | error e =>
      simp [hverb] at h
  | ok verb? =>
      have hword := verbOf?_eq_ok hverb
      rw [hverb] at h
      cases verb? with
      | none =>
          by_cases hshared : key.same (.str "parameters") = true
          · simp [hshared] at h
          · simp [hshared] at h
      | some verb =>
          cases v with
          | map node =>
              simpa [Operation.ofMember?, hword, eq_comm] using h
          | _ =>
              simp at h

/-- An operation that is walked to is one of the table, even if the walk breaks off later. -/
theorem mem_ofPaths_of_visit {paths : Value} {op : Operation} :
    .visit op ∈ walkPaths paths → op ∈ Operation.ofPaths paths := by
  intro h
  rw [walkPaths, walkTable_eq_flatMap] at h
  rcases List.mem_flatMap.1 h with ⟨⟨path, item⟩, hitem, hvisit⟩
  rcases List.mem_flatMap.1 hvisit with ⟨⟨key, v⟩, hmember, hvisit⟩
  exact List.mem_flatMap.2 ⟨(path, item), hitem,
    List.mem_filterMap.2 ⟨(key, v), hmember, ofMember?_of_visit hvisit⟩⟩

/-! ## Legacy interfaces -/

/-- A node of a legacy interface gives the operation that it is, if any. -/
theorem operationsOf_legacyStepsOf {path : String} {v : Value} {ops : List Operation} :
    operationsOf (legacyStepsOf path v) = .ok ops → ops = (Operation.ofLegacy? path v).toList := by
  intro h
  cases v with
  | map node =>
      unfold legacyStepsOf at h
      cases hmethod : ((Entries.member? node "method").getD (.str "")).displayed with
      | error e =>
          simp [hmethod] at h
      | ok method =>
          simp only [hmethod] at h
          simp only [Operation.ofLegacy?, Value.displayed_eq_ok hmethod]
          cases hverb : Verb.ofWord? (Text.toUpper method) with
          | none =>
              rw [hverb] at h
              cases h
              rfl
          | some verb =>
              rw [hverb] at h
              cases verb <;> cases h <;> rfl
  | _ =>
      cases h
      rfl

/-- Only a list has operations in it, whatever else can be iterated. -/
theorem filterMap_ofLegacy?_iterate {path : String} {v : Value} {items : List Value} :
    v.iterate = .ok items →
      items.filterMap (Operation.ofLegacy? path) =
        (v.items?.getD []).filterMap (Operation.ofLegacy? path) := by
  intro h
  rcases Value.iterate_eq_ok h with hitems | ⟨hnone, leaves, rfl⟩
  · rw [hitems]
    rfl
  · rw [hnone, List.filterMap_map]
    exact List.filterMap_eq_nil_iff.2 fun _ _ => rfl

/-- The operations that an interface is walked for, where it can be walked. -/
theorem legacyOperations_eq_ok {api : Entries} {path : String} {items : List Value} :
    legacyOperations api = .ok (path, items) →
      items.filterMap (Operation.ofLegacy? path) = Operation.ofApi api := by
  intro h
  simp only [legacyOperations, bind_eq_ok_iff] at h
  rcases h with ⟨path', hpath, hitems⟩
  have hmember : (api.member? "operations").bind Value.items? =
      (api.member "operations").items? := by
    cases h : api.member? "operations" <;> simp [Entries.member, h, Value.items?]
  simp only [Operation.ofApi, Value.displayed_eq_ok hpath, hmember]
  by_cases htruthy : (api.member "operations").truthy = true
  · simp only [htruthy, if_true, bind_eq_ok_iff, pure_eq_ok_iff] at hitems
    rcases hitems with ⟨items', hiterate, hpair⟩
    cases hpair
    exact filterMap_ofLegacy?_iterate hiterate
  · simp only [htruthy] at hitems
    cases hitems
    rw [Value.items?_of_not_truthy htruthy]

/-- The walk of a legacy interface gives its operations. -/
theorem operationsOf_walkApi {api : Entries} {ops : List Operation} :
    operationsOf (walkApi api) = .ok ops → ops = Operation.ofApi api := by
  intro h
  unfold walkApi at h
  cases hparts : legacyOperations api with
  | error e =>
      simp [hparts] at h
  | ok parts =>
      rcases parts with ⟨path, items⟩
      rw [hparts] at h
      have hops := operationsOf_flatMap
        (g := fun v => (Operation.ofLegacy? path v).toList)
        (fun _ _ => operationsOf_legacyStepsOf) h
      rw [hops, ← List.filterMap_eq_flatMap_toList]
      exact legacyOperations_eq_ok hparts

/-- The walk of a list of legacy interfaces gives their operations. -/
theorem operationsOf_walkApis {apis : Value} {ops : List Operation} :
    operationsOf (walkApis apis) = .ok ops → ops = Operation.ofApis apis := by
  intro h
  refine operationsOf_flatMap (fun api ops hapi => ?_) h
  cases api with
  | map entries =>
      exact operationsOf_walkApi hapi
  | _ =>
      cases hapi
      rfl

/-! ## Documents -/

/-- A walk that does not break off finds the retained operations and no others, in order. -/
theorem Build.operationsOf_steps {grammar : Grammar} {document : Entries} {ops : List Operation} :
    operationsOf (steps grammar document) = .ok ops → ops = retained grammar document := by
  intro h
  cases grammar with
  | legacy =>
      exact operationsOf_walkApis h
  | swagger2 =>
      exact operationsOf_walkPaths h
  | openApi3 =>
      exact operationsOf_walkPaths h

end ApiView
