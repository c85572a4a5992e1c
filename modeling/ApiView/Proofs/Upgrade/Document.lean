import ApiView.Options.Reading
import ApiView.Proofs.Translation.Document

/-!
# Document — a legacy document as a 2.0 document

A legacy document lists interfaces, and a 2.0 document has a table of paths.  This file moves what the
first says to where the second says it, and names the documents for which nothing is lost on the way:

* `Upgrade.renamed`: members with a name changed;
* `Upgrade.parameter`, `Upgrade.operation`: the place of a parameter, the id and the requirements of an
  operation under their new names;
* `Upgrade.item`, `Upgrade.paths`, `Upgrade.document`: interfaces become path items under their paths;
* `Upgrade.Common`: the documents that both grammars can say.
-/

namespace ApiView
namespace Upgrade

open Translation (edit moved)

/-! ## New names -/

/-- Members with one name changed. -/
def renamed (name newName : String) (entries : Entries) : Entries :=
  entries.map fun (key, v) => (if key = .str name then .str newName else key, v)

section Renamed

variable {name newName : String} {entries : Entries}

theorem renamed_cons (name newName : String) (key : Scalar) (v : Value) (rest : Entries) :
    renamed name newName ((key, v) :: rest) =
      (if key = .str name then .str newName else key, v) :: renamed name newName rest := rfl

/-- Under its new name a member is found as it was, if nothing else has that name. -/
theorem member?_renamed (hfree : entries.member? newName = none) :
    (renamed name newName entries).member? newName = entries.member? name := by
  induction entries with
  | nil =>
      rfl
  | cons entry rest ih =>
      rcases entry with ⟨key, v⟩
      -- The new name is free, so no other member can be mistaken for the renamed one.
      have hkey : key ≠ .str newName := by
        rintro rfl
        rw [Entries.member?_cons_self] at hfree
        cases hfree
      rw [Entries.member?_cons_of_ne hkey] at hfree
      rw [renamed_cons]
      by_cases hname : key = .str name
      · rw [if_pos hname, hname, Entries.member?_cons_self, Entries.member?_cons_self]
      · rw [if_neg hname, Entries.member?_cons_of_ne hkey, Entries.member?_cons_of_ne hname, ih hfree]

/-- Members under other names are found as before. -/
theorem member?_renamed_of_ne {other : String} (hname : other ≠ name) (hnewName : other ≠ newName)
    (entries : Entries) : (renamed name newName entries).member? other = entries.member? other := by
  induction entries with
  | nil =>
      rfl
  | cons entry rest ih =>
      rcases entry with ⟨key, v⟩
      rw [renamed_cons]
      by_cases hkey : key = .str name
      · have hold : key ≠ .str other := by
          rw [hkey]
          simpa using hname.symm
        have hnew : Scalar.str newName ≠ .str other := by simpa using hnewName.symm
        rw [if_pos hkey, Entries.member?_cons_of_ne hnew, Entries.member?_cons_of_ne hold, ih]
      · rw [if_neg hkey]
        by_cases hother : key = .str other
        · rw [hother, Entries.member?_cons_self, Entries.member?_cons_self]
        · rw [Entries.member?_cons_of_ne hother, Entries.member?_cons_of_ne hother, ih]

end Renamed

/-! ## Parameters -/

/-- A parameter node with its place under the new name; a node that is no mapping is left alone. -/
def parameter : Value → Value
  | .map node => .map (renamed "paramType" "in" node)
  | v => v

/-- A list of parameter nodes. -/
def parameterList : Value → Value
  | .list nodes => .list (nodes.map parameter)
  | v => v

/-! ## Operations -/

/-- What becomes of a member of an operation: the verb becomes a key, and authorizations become
requirements. -/
def operationMember : Scalar → Value → Option Value
  | .str "method", _ => none
  | .str "authorizations", _ => none
  | .str "parameters", v => some (parameterList v)
  | _, v => some v

/-- The requirements of an operation: its authorizations as one requirement, if there are any. -/
def security (node : Entries) : Entries :=
  let authorizations := node.member "authorizations"
  if authorizations.truthy then [(.str "security", .list [authorizations])] else []

/-- An operation object. -/
def operation (node : Entries) : Entries :=
  renamed "nickname" "operationId" (edit operationMember node) ++ security node

/-! ## Paths -/

/-- The key of an operation in a path item: its verb in small letters. -/
def methodKey (node : Entries) : Scalar :=
  .str (asciiLower (((node.member? "method").bind Value.text?).getD ""))

/-- The path item of an interface. -/
def item (api : Entries) : Entries :=
  let nodes := (Build.listMember api "operations").filterMap Value.entries?
  Entries.ofPairs (nodes.map fun node => (methodKey node, .map (operation node)))

/-- The key of an interface in a table of paths. -/
def pathKey (api : Entries) : Scalar :=
  .str (((api.member? "path").bind Value.text?).getD "")

/-- The table of paths of a list of interfaces. -/
def paths (apis : Value) : Value :=
  let apis := (apis.items?.getD []).filterMap Value.entries?
  .map (Entries.ofPairs (apis.map fun api => (pathKey api, .map (item api))))

/-! ## Documents -/

/-- The 2.0 document that says what a legacy document says. -/
def document (d : Entries) : Entries :=
  (.str "swagger", .str "2.0") ::
    (moved d "apis" "paths" paths ++ moved d "models" "definitions" id ++
      moved d "authorizations" "securityDefinitions" id)

/-! ## What both grammars can say -/

/-- A parameter that is given in place and has no place but that of legacy documents. -/
structure CommonParameter (node : Value) : Prop where
  isMap : node.isMap = true
  reference : node.member? "$ref" = none
  location : node.member? "in" = none

/-- The names that an operation may use. -/
def operationNames : List String :=
  ["method", "nickname", "summary", "parameters", "produces", "tags", "authorizations"]

/-- An operation that both grammars can say: its method is a verb other than `OPTIONS`, in letters of any
case. -/
structure CommonOperation (node : Entries) : Prop where
  names : ∀ key ∈ node.keys, ∃ name ∈ operationNames, key = .str name
  method : ∃ method verb, node.member? "method" = some (.str method) ∧ verb ≠ Verb.options ∧
    asciiLower method = asciiLower verb.word
  parameters : ∀ v, node.member? "parameters" = some v →
    ∃ nodes, v = .list nodes ∧ ∀ node ∈ nodes, CommonParameter node
  authorizations : ∀ v, node.member? "authorizations" = some v → v.isMap = true

/-- An interface that both grammars can say: no two of its operations have the same method. -/
structure CommonApi (nodes : List Entries) (api : Entries) : Prop where
  path : ∃ path, api.member? "path" = some (.str path)
  operations : api.member? "operations" = some (.list (nodes.map .map))
  common : ∀ node ∈ nodes, CommonOperation node
  different : (nodes.map methodKey).Nodup

/-- The names that a document may use. -/
def documentNames : List String :=
  ["swaggerVersion", "apis", "models", "authorizations"]

/-- A legacy document that both grammars can say: no two of its interfaces have the same path. -/
structure Common (d : Entries) : Prop where
  names : ∀ key ∈ d.keys, ∃ name ∈ documentNames, key = .str name
  apis : ∃ apis : List Entries, d.member? "apis" = some (.list (apis.map .map)) ∧
    (∀ api ∈ apis, ∃ nodes, CommonApi nodes api) ∧ (apis.map pathKey).Nodup

end Upgrade
end ApiView
