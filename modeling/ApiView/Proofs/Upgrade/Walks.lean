import ApiView.Proofs.Text.Ascii
import ApiView.Proofs.Upgrade.Methods

/-!
# Walks — the same operations at their new places

An interface lists its operations, and a path item has them under their methods.  Where all of them are
operations that both grammars can say, neither walk skips anything or breaks off:

* `Text.toUpper_asciiLower`: small letters have the same capitals;
* `Upgrade.exists_operation`: one node of an interface, in both walks;
* `walkApi_of_common`, `walkItem_of_common`: an interface and its path item;
* `steps_of_common`, `steps_document`: a legacy document and its translation.
-/

namespace ApiView

/-! ## Letters -/

namespace Text

/-- Small letters have the same capitals. -/
theorem toUpper_asciiLower (s : String) : toUpper (asciiLower s) = toUpper s := by
  simp only [toUpper, upper, asciiLower, String.toList_ofList, List.flatMap_map, upperChar_toLower]

end Text

namespace Upgrade

open Build

variable {d api node : Entries} {nodes : List Entries}

/-! ## Operations -/

/-- A word that is a verb in letters of any case names that verb. -/
theorem ofWord?_of_asciiLower {word : String} {verb : Verb} :
    asciiLower word = asciiLower verb.word → Verb.ofWord? (Text.toUpper word) = some verb := by
  intro h
  have hword : Text.toUpper word = Text.toUpper verb.word := by
    rw [← Text.toUpper_asciiLower word, h, Text.toUpper_asciiLower]
  rw [hword]
  cases verb <;> decide +kernel

theorem methodKey_eq {method : String} :
    node.member? "method" = some (.str method) → methodKey node = .str (asciiLower method) := by
  intro hmethod
  rw [methodKey, hmethod]
  rfl

/-- A node of an interface is one operation, in the walk of the interface and in that of its path
item. -/
theorem exists_operation (h : CommonOperation node) (path : String) :
    ∃ op : Operation, op.node = node ∧ op.shared = [] ∧
      Operation.ofLegacy? path (.map node) = some op ∧ legacyStepsOf path (.map node) = [.visit op] ∧
        stepsOf (.str path) [] (methodKey node) (.map (operation node)) = [.visit (visited op)] := by
  obtain ⟨method, verb, hmethod, hoptions, hword⟩ := h.method
  refine ⟨⟨.str path, verb, node, []⟩, rfl, rfl, ?_⟩
  have hold : Verb.ofWord? (Text.toUpper method) = some verb := ofWord?_of_asciiLower hword
  have hdisplayed : ∀ word, (Value.str word).displayed = .ok word := fun _ => rfl
  -- The method as it is written and the key in small letters have the same capitals.
  refine ⟨?_, ?_, ?_⟩
  · have hkept : (verb != .options) = true := bne_iff_ne.2 hoptions
    simp [Operation.ofLegacy?, hmethod, Value.displayed_eq_ok (hdisplayed method), hold, Option.filter,
      hkept]
  · simp only [legacyStepsOf, hmethod, Option.getD_some, hdisplayed, hold]
  · have hnew : verbOf? (methodKey node) = .ok (some verb) := by
      have hdisplayed : (Scalar.str (asciiLower method)).displayed = .ok (asciiLower method) :=
        hdisplayed _
      rw [methodKey_eq hmethod, verbOf?, hdisplayed, ok_bind, Text.toUpper_asciiLower, hold]
      rfl
    simp only [stepsOf, hnew]
    rfl

/-! ## Interfaces -/

/-- Members under different texts stay as they are listed. -/
theorem ofPairs_map {α : Type} {xs : List α} {key : α → String} (value : α → Value)
    (hdifferent : (xs.map fun x => Scalar.str (key x)).Nodup) :
    Entries.ofPairs (xs.map fun x => (.str (key x), value x)) =
      xs.map fun x => (.str (key x), value x) := by
  have hkeys : Entries.keys (xs.map fun x => (Scalar.str (key x), value x)) =
      xs.map fun x => .str (key x) := by
    simp [Entries.keys]
  refine Entries.ofPairs_of_named ⟨?_, ?_⟩
  · rw [hkeys]
    intro k hk
    obtain ⟨x, _, rfl⟩ := List.mem_map.1 hk
    exact ⟨key x, rfl⟩
  · rw [hkeys]
    exact hdifferent

/-- Mappings are what they are made of. -/
theorem filterMap_entries? (nodes : List Entries) :
    (nodes.map Value.map).filterMap Value.entries? = nodes := by
  rw [List.filterMap_map]
  exact List.filterMap_some

section Api

variable (h : CommonApi nodes api)

include h

/-- The path item of an interface has its operations under their methods. -/
theorem item_of_common :
    item api = nodes.map fun node => (methodKey node, .map (operation node)) := by
  have hlisted : listMember api "operations" = nodes.map .map := by
    rw [listMember, h.operations]
    rfl
  rw [item]
  simp only [hlisted, filterMap_entries?]
  exact ofPairs_map (fun node => .map (operation node)) h.different

/-- No method is named like the parameters that a path item shares. -/
theorem sharedParameters_item : sharedParameters (item api) = [] := by
  have hwords : ∀ verb : Verb, asciiLower verb.word ≠ "parameters" := by
    intro verb
    cases verb <;> decide +kernel
  have hnone : (item api).member? "parameters" = none := by
    rw [Entries.member?_eq_none_iff, item_of_common h]
    intro hmem
    obtain ⟨entry, hentry, hkey⟩ := List.mem_map.1 hmem
    obtain ⟨node, hnode, rfl⟩ := List.mem_map.1 hentry
    obtain ⟨method, verb, hmethod, _, hword⟩ := (h.common node hnode).method
    have hsame : asciiLower method = "parameters" :=
      Scalar.str.inj ((methodKey_eq hmethod).symm.trans hkey)
    exact hwords verb (hword ▸ hsame)
  rw [sharedParameters, hnone]
  rfl

/-- The operations of an interface are those of its nodes. -/
theorem ofApi_of_common :
    ∃ path, api.member? "path" = some (.str path) ∧
      Operation.ofApi api = nodes.filterMap fun node => Operation.ofLegacy? path (.map node) := by
  obtain ⟨path, hpath⟩ := h.path
  have hdisplay : (Value.str path).display = path := rfl
  refine ⟨path, hpath, ?_⟩
  simp only [Operation.ofApi, hpath, Option.getD_some, hdisplay, h.operations, Option.bind_some,
    Value.items?, List.filterMap_map, Function.comp_def]

/-- An interface is walked to its operations. -/
theorem walkApi_of_common : walkApi api = (Operation.ofApi api).map .visit := by
  obtain ⟨path, hpath, hops⟩ := ofApi_of_common h
  have hfound : legacyOperations api = .ok (path, nodes.map .map) := by
    have hdisplayed : (Value.str path).displayed = .ok path := rfl
    have hoperations : api.member "operations" = .list (nodes.map .map) := by
      rw [Entries.member, h.operations]
      rfl
    simp only [legacyOperations, hpath, Option.getD_some, hdisplayed, hoperations, ok_bind]
    cases nodes <;> rfl
  calc
    walkApi api = nodes.flatMap fun node => legacyStepsOf path (.map node) := by
      rw [walkApi, hfound]
      exact List.flatMap_map ..
    _ = nodes.flatMap fun node => (Operation.ofLegacy? path (.map node)).toList.map .visit := by
      refine List.flatMap_congr fun node hnode => ?_
      obtain ⟨op, _, _, hop, hsteps, _⟩ := exists_operation (h.common node hnode) path
      rw [hsteps, hop]
      rfl
    _ = (Operation.ofApi api).map .visit := by
      rw [hops, List.filterMap_eq_flatMap_toList, List.map_flatMap]

/-- Its path item is walked to the translated operations. -/
theorem walkItem_of_common :
    walkItem (pathKey api) (sharedParameters (item api)) (item api) =
      (Operation.ofApi api).map fun op => .visit (visited op) := by
  obtain ⟨path, hpath, hops⟩ := ofApi_of_common h
  have hkey : pathKey api = .str path := by
    rw [pathKey, hpath]
    rfl
  calc
    walkItem (pathKey api) (sharedParameters (item api)) (item api)
        = nodes.flatMap fun node => stepsOf (.str path) [] (methodKey node) (.map (operation node)) := by
      rw [sharedParameters_item h, item_of_common h, hkey, walkItem, List.flatMap_map]
    _ = nodes.flatMap fun node =>
        (Operation.ofLegacy? path (.map node)).toList.map fun op => .visit (visited op) := by
      refine List.flatMap_congr fun node hnode => ?_
      obtain ⟨op, _, _, hop, _, hsteps⟩ := exists_operation (h.common node hnode) path
      rw [hsteps, hop]
      rfl
    _ = (Operation.ofApi api).map fun op => .visit (visited op) := by
      rw [hops, List.filterMap_eq_flatMap_toList, List.map_flatMap]

/-- Its operations are common ones, and share no parameters. -/
theorem common_of_ofApi {op : Operation} :
    op ∈ Operation.ofApi api → CommonOperation op.node ∧ op.shared = [] := by
  intro hmem
  obtain ⟨path, _, hops⟩ := ofApi_of_common h
  rw [hops] at hmem
  obtain ⟨node, hnode, hfound⟩ := List.mem_filterMap.1 hmem
  obtain ⟨op', rfl, hshared, hop, _⟩ := exists_operation (h.common node hnode) path
  rw [hop] at hfound
  cases hfound
  exact ⟨h.common _ hnode, hshared⟩

end Api

/-! ## Documents -/

section Listed

variable {apis : List Entries} (hapis : d.member? "apis" = some (.list (apis.map .map)))

include hapis

theorem retained_of_listed : retained .legacy d = apis.flatMap Operation.ofApi := by
  simp only [retained, Operation.ofApis, Entries.member, hapis, Option.getD_some, Value.items?,
    List.flatMap_map, Value.entries?]

theorem steps_of_listed : steps .legacy d = apis.flatMap walkApi := by
  simp only [steps, walkApis, Entries.member, hapis, Option.getD_some, Value.items?, List.flatMap_map]

/-- The interfaces of a document stand under their paths. -/
theorem paths_of_listed (hdifferent : (apis.map pathKey).Nodup) :
    (document d).member "paths" = .map (apis.map fun api => (pathKey api, .map (item api))) := by
  have hmember : (document d).member "paths" = paths (.list (apis.map .map)) := by
    rw [Entries.member, member?_paths, hapis]
    rfl
  rw [hmember, paths]
  simp only [Value.items?, Option.getD_some, filterMap_entries?]
  exact congrArg _ (ofPairs_map (fun api => .map (item api)) hdifferent)

end Listed

/-- A legacy document is walked to the operations that it retains. -/
theorem steps_of_common (h : Common d) : steps .legacy d = (retained .legacy d).map .visit := by
  obtain ⟨apis, hapis, hcommon, _⟩ := h.apis
  rw [steps_of_listed hapis, retained_of_listed hapis, List.map_flatMap]
  refine List.flatMap_congr fun api hapi => ?_
  obtain ⟨nodes, hnodes⟩ := hcommon api hapi
  exact walkApi_of_common hnodes

/-- Its translation is walked to the translated operations. -/
theorem steps_document (h : Common d) :
    steps .swagger2 (document d) = ((retained .legacy d).map visited).map .visit := by
  obtain ⟨apis, hapis, hcommon, hdifferent⟩ := h.apis
  rw [steps, paths_of_listed hapis hdifferent, retained_of_listed hapis, walkPaths,
    walkTable_eq_flatMap, List.map_map, List.map_flatMap]
  simp only [Value.entries?, Option.getD_some, List.flatMap_map]
  refine List.flatMap_congr fun api hapi => ?_
  obtain ⟨nodes, hnodes⟩ := hcommon api hapi
  exact walkItem_of_common hnodes

/-- The operations that it retains are common ones, and share no parameters. -/
theorem common_of_retained (h : Common d) {op : Operation} :
    op ∈ retained .legacy d → CommonOperation op.node ∧ op.shared = [] := by
  intro hmem
  obtain ⟨apis, hapis, hcommon, _⟩ := h.apis
  rw [retained_of_listed hapis] at hmem
  obtain ⟨api, hapi, hop⟩ := List.mem_flatMap.1 hmem
  obtain ⟨nodes, hnodes⟩ := hcommon api hapi
  exact common_of_ofApi hnodes hop

end Upgrade
end ApiView
