import ApiView.Proofs.Operation.Retained
import ApiView.Reference.Resolve

/-!
# Document — a 2.0 document as a 3.x document

The two grammars say much of the same at different places.  This file moves what a 2.0 document says to
where a 3.x document says it, and names the documents for which nothing is lost on the way:

* `Translation.edit`, `Translation.moved`: members changed, dropped, or put under a new name;
* `Translation.pointer`, `Translation.parameter`: pointers follow the table of parameters;
* `Translation.response`: the schema of a response stands under each content type produced;
* `Translation.operation`, `Translation.paths`, `Translation.document`: everything else stays;
* `Translation.Common`: the documents that both grammars can say.
-/

namespace ApiView
namespace Translation

/-! ## Editing members -/

/-- Members with new values under their keys, those without one dropped. -/
def edit (rule : Scalar → Value → Option Value) (entries : Entries) : Entries :=
  entries.filterMap fun (key, v) => (rule key v).map fun w => (key, w)

/-- A member under a new name, if it is there. -/
def moved (entries : Entries) (name newName : String) (change : Value → Value) : Entries :=
  ((entries.member? name).map fun v => (.str newName, change v)).toList

section Edit

variable {rule : Scalar → Value → Option Value} {name : String} {change : Value → Value}

/-- A member under another key plays no part. -/
theorem member?_edit_cons_of_ne {key : Scalar} (hkey : key ≠ .str name) (v : Value)
    (rest : Entries) : (edit rule ((key, v) :: rest)).member? name = (edit rule rest).member? name := by
  cases hrule : rule key v with
  | none =>
      simp [edit, hrule]
  | some w =>
      have hedit : edit rule ((key, v) :: rest) = (key, w) :: edit rule rest := by
        simp [edit, hrule]
      rw [hedit, Entries.member?_cons_of_ne hkey]

/-- A member that the rule changes is found changed. -/
theorem member?_edit_kept (hkept : ∀ v, rule (.str name) v = some (change v)) (entries : Entries) :
    (edit rule entries).member? name = (entries.member? name).map change := by
  induction entries with
  | nil =>
      rfl
  | cons entry rest ih =>
      rcases entry with ⟨key, v⟩
      by_cases hkey : key = .str name
      · subst hkey
        simp [edit, Entries.member?, Entries.find?, hkept]
      · rw [member?_edit_cons_of_ne hkey, ih, Entries.member?_cons_of_ne hkey]

theorem member?_edit_same (hsame : ∀ v, rule (.str name) v = some v) (entries : Entries) :
    (edit rule entries).member? name = entries.member? name := by
  have hkept : (edit rule entries).member? name = (entries.member? name).map id :=
    member?_edit_kept hsame entries
  rw [hkept, Option.map_id]
  rfl

theorem member?_edit_dropped (hdropped : ∀ v, rule (.str name) v = none) (entries : Entries) :
    (edit rule entries).member? name = none := by
  induction entries with
  | nil =>
      rfl
  | cons entry rest ih =>
      rcases entry with ⟨key, v⟩
      by_cases hkey : key = .str name
      · subst hkey
        simpa [edit, hdropped] using ih
      · rw [member?_edit_cons_of_ne hkey, ih]

theorem edit_cons_kept (change : Scalar → Value → Value) (key : Scalar) (v : Value) (rest : Entries) :
    edit (fun key v => some (change key v)) ((key, v) :: rest) =
      (key, change key v) :: edit (fun key v => some (change key v)) rest := rfl

/-- Members that are all kept change one by one. -/
theorem edit_kept (change : Scalar → Value → Value) (entries : Entries) :
    edit (fun key v => some (change key v)) entries =
      entries.map fun entry => (entry.1, change entry.1 entry.2) := by
  simp [edit]

/-- Members that are all kept are as many as before. -/
theorem length_edit_kept (change : Scalar → Value → Value) (entries : Entries) :
    (edit (fun key v => some (change key v)) entries).length = entries.length := by
  simp [edit]

/-- A member is found under the name that it is moved to. -/
theorem member?_moved_self (entries : Entries) (name newName : String) (change : Value → Value) :
    (moved entries name newName change).member? newName = (entries.member? name).map change := by
  unfold moved
  cases entries.member? name with
  | none =>
      rfl
  | some v =>
      exact Entries.member?_cons_self newName (change v) []

theorem member?_moved_of_ne {other newName : String} (hne : newName ≠ other) (entries : Entries)
    (name : String) (change : Value → Value) :
    (moved entries name newName change).member? other = none := by
  unfold moved
  cases entries.member? name with
  | none =>
      rfl
  | some v =>
      exact Entries.member?_cons_of_ne (by simpa using hne) (change v) []

end Edit

/-! ## Parameters -/

/-- A pointer into the table of parameters points into the one among the components. -/
def pointer (p : String) : String :=
  if "#/parameters/".toList.isPrefixOf p.toList then
    "#/components/parameters/" ++ String.ofList (p.toList.drop "#/parameters/".toList.length)
  else p

/-- The members of a parameter node, the pointer of a reference moved. -/
def redirect (node : Entries) : Entries :=
  match Reference.pointer? (.map node) with
  | some p => Entries.put (.str "$ref") (.str (pointer p)) node
  | none => node

/-- A parameter node; a node that is no mapping is left alone. -/
def parameter : Value → Value
  | .map node => .map (redirect node)
  | v => v

/-- A list of parameter nodes. -/
def parameterList : Value → Value
  | .list nodes => .list (nodes.map parameter)
  | v => v

/-- A table of parameter nodes. -/
def parameterTable : Value → Value
  | .map entries => .map (edit (fun _ node => some (parameter node)) entries)
  | v => v

/-! ## Responses -/

/-- What stands under each content type of a response: its schema, if it has one. -/
def media (response : Entries) : Entries :=
  moved response "schema" "schema" id

/-- What becomes of a member of a response: the schema moves into the content map. -/
def responseMember : Scalar → Value → Option Value
  | .str "schema", _ => none
  | .str "content", _ => none
  | _, v => some v

/-- The members of a response that comes in some content types. -/
def withContent (types : List String) (response : Entries) : Entries :=
  edit responseMember response ++
    [(.str "content", .map (types.map fun t => (.str t, .map (media response))))]

/-- A response that comes in some content types; a node that is no mapping is left alone. -/
def response (types : List String) : Value → Value
  | .map entries => .map (withContent types entries)
  | v => v

/-- A table of responses that come in some content types. -/
def responseTable (types : List String) : Value → Value
  | .map table => .map (edit (fun _ v => some (response types v)) table)
  | v => v

/-! ## Operations -/

/-- The content types that an operation produces. -/
def producedTypes (node : Entries) : List String :=
  (Build.listMember node "produces").filterMap Value.text?

/-- What becomes of a member of an operation. -/
def operationMember (types : List String) : Scalar → Value → Option Value
  | .str "produces", _ => none
  | .str "parameters", v => some (parameterList v)
  | .str "responses", v => some (responseTable types v)
  | _, v => some v

/-- An operation object. -/
def operation (node : Entries) : Entries :=
  edit (operationMember (producedTypes node)) node

/-! ## Paths -/

/-- A member of a path item: an operation, the shared parameters, or anything else. -/
def itemMember (key : Scalar) (v : Value) : Value :=
  match Verb.ofWord? (Text.toUpper key.display), v with
  | some _, .map node => .map (operation node)
  | some _, _ => v
  | none, _ => if key = .str "parameters" then parameterList v else v

/-- A path item. -/
def item : Value → Value
  | .map entries => .map (edit (fun key v => some (itemMember key v)) entries)
  | v => v

/-- A table of paths. -/
def paths : Value → Value
  | .map table => .map (edit (fun _ v => some (item v)) table)
  | v => v

/-! ## Documents -/

/-- The components: the tables that a 2.0 document has at the top. -/
def components (document : Entries) : Entries :=
  moved document "securityDefinitions" "securitySchemes" id ++
    moved document "parameters" "parameters" parameterTable ++
    moved document "definitions" "schemas" id

/-- What becomes of a member of a document. -/
def documentMember : Scalar → Value → Option Value
  | .str "swagger", _ => none
  | .str "openapi", _ => none
  | .str "securityDefinitions", _ => none
  | .str "parameters", _ => none
  | .str "definitions", _ => none
  | .str "paths", v => some (paths v)
  | _, v => some v

/-- The 3.x document that says what a 2.0 document says. -/
def document (d : Entries) : Entries :=
  (.str "openapi", .str "3.0.0") ::
    (edit documentMember d ++ [(.str "components", .map (components d))])

/-! ## What both grammars can say -/

/-- A pointer into the table of parameters. -/
def IntoTable (p : String) : Prop :=
  ∃ written, p = "#/parameters/" ++ written

/-- A node that is no reference, or one whose pointer moves with the table of parameters. -/
def Movable (node : Value) : Prop :=
  ∀ p, Reference.pointer? node = some p → IntoTable p

/-- The responses of a table are given in place. -/
def Inline (table : Entries) : Prop :=
  ∀ entry ∈ table, ∃ node : Entries,
    entry.2 = .map node ∧ Reference.pointer? (.map node) = none

/-- An operation that declares its content types and has a response of success, all of its responses
being given in place. -/
structure Responds (types : List String) (table : Entries) (node : Entries) : Prop where
  produces : node.member? "produces" = some (.list (types.map .str))
  nonempty : types ≠ []
  nodup : types.Nodup
  responses : node.member? "responses" = some (.map table)
  inline : Inline table
  success : ∃ entry ∈ table, Build.isSuccess entry.1 = .ok true

/-- An operation that both grammars can say. -/
structure CommonOperation (op : Operation) : Prop where
  consumes : op.node.member? "consumes" = none
  requestBody : op.node.member? "requestBody" = none
  parameters : ∀ node ∈ Build.listMember op.node "parameters" ++ op.shared, Movable node
  responses : (op.node.member? "produces" = none ∧ op.node.member? "responses" = none) ∨
    ∃ types table, Responds types table op.node

/-- The table of parameters that a document shares, if there is one. -/
def sharedTable (d : Entries) : Option Entries :=
  (d.member? "parameters").bind Value.entries?

/-- A document that both grammars can say. -/
structure Common (d : Entries) : Prop where
  absent : ∀ name ∈ ["consumes", "produces", "schemes", "host", "basePath", "servers", "components"],
    d.member? name = none
  parameters : ∀ table, sharedTable d = some table → ∀ entry ∈ table, Movable entry.2
  operations : ∀ op ∈ Build.retained .swagger2 d, CommonOperation op

end Translation
end ApiView
