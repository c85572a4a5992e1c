import ApiView.Proofs.Build.Drafts
import ApiView.Proofs.Translation.Responses

/-!
# Methods — one operation in both grammars

An operation that both grammars can say gives the same method in both builds, or none in either:

* `Translation.visited`, `Translation.translated`: an operation and a setup after the translation;
* `toOption_classifyAll`: its parameters are the same;
* `responses_agree`: its responses are the same, and the header that asks for them;
* `toOption_method`: its method is the same.
-/

namespace ApiView
namespace Translation

open Build

variable {d node : Entries} {setup : Setup} {op : Operation}

/-- An operation as the translated document has it. -/
def visited (op : Operation) : Operation :=
  { op with node := operation op.node, shared := op.shared.map parameter }

/-- A setup that builds the translated document. -/
def translated (setup : Setup) : Setup :=
  { setup with document := document setup.document }

/-! ## Members of a translated operation -/

theorem member?_operation_same {name : String}
    (hsame : ∀ v, operationMember (producedTypes node) (.str name) v = some v) :
    (operation node).member? name = node.member? name :=
  member?_edit_same hsame node

theorem member_operation_same {name : String}
    (hsame : ∀ v, operationMember (producedTypes node) (.str name) v = some v) :
    (operation node).member name = node.member name := by
  unfold Entries.member
  rw [member?_operation_same hsame]

theorem member?_responses_operation :
    (operation node).member? "responses" =
      (node.member? "responses").map (responseTable (producedTypes node)) :=
  member?_edit_kept (fun _ => rfl) node

/-- The parameters of an operation are translated one by one. -/
theorem listMember_operation_parameters :
    listMember (operation node) "parameters" = (listMember node "parameters").map parameter := by
  have hparameters : (operation node).member? "parameters" =
      (node.member? "parameters").map parameterList := member?_edit_kept (fun _ => rfl) node
  rw [listMember, hparameters, listMember]
  cases node.member? "parameters" with
  | none =>
      rfl
  | some v =>
      cases v <;> rfl

/-- Translating an operation changes nothing that a method is assembled of. -/
theorem assemble_visited (options : Options) (draft : Draft) :
    assemble options (visited op) draft = assemble options op draft := by
  have hsame : ∀ name ∈ ["tags", "externalDocs", "description", "summary"],
      ∀ v, operationMember (producedTypes op.node) (.str name) v = some v := by
    simp [operationMember]
  have hmember : ∀ name ∈ ["tags", "externalDocs", "description", "summary"],
      (visited op).node.member name = op.node.member name :=
    fun name hname => member_operation_same (hsame name hname)
  refine assemble_congr ?_ ?_ hmember options draft
  · rfl
  · rfl

/-! ## Parameters -/

/-- Parameter nodes are classified alike. -/
theorem toOption_classifyAll (h : Common setup.document) {nodes : List Value}
    (hnodes : ∀ node ∈ nodes, Movable node) :
    (classifyAll (translated setup) "in" (nodes.map parameter)).outcome.toOption =
      (classifyAll setup "in" nodes).outcome.toOption := by
  induction nodes with
  | nil =>
      rfl
  | cons node rest ih =>
      have hnode := toOption_deref_parameter h (hnodes node (List.mem_cons_self ..))
      have ih := ih fun node hmem => hnodes node (List.mem_cons_of_mem _ hmem)
      simp only [translated] at ih ⊢
      simp only [List.map_cons, classifyAll, Setup.deref, Traced.outcome_bind, Traced.outcome_lift,
        toOption_bind, hnode]
      -- Both chains end at the same node, so only the nodes that follow are left to compare.
      refine congrArg _ (funext fun target => ?_)
      by_cases hmap : target.isMap = true
      · simp only [hmap, if_true, Traced.outcome_bind, toOption_bind]
        refine congrArg _ (funext fun parameter? => ?_)
        cases parameter? with
        | none =>
            exact ih
        | some p =>
            simp only [Traced.outcome_bind, toOption_bind, ih]
      · simp only [hmap]
        exact ih

/-! ## Responses -/

section Responses

variable {types : List String} {table : Entries}

theorem producedTypes_of_responds (h : Responds types table node) : producedTypes node = types := by
  have htexts : Value.text? ∘ Value.str = some := rfl
  simp only [producedTypes, listMember, h.produces, Option.bind_some, Value.items?, Option.getD_some,
    List.filterMap_map, htexts, List.filterMap_some]

theorem orElse_of_nonempty (hnonempty : types ≠ []) (v : Value) :
    (Value.list (types.map .str)).orElse v = .list (types.map .str) := by
  simp [Value.orElse, truthy_of_nonempty hnonempty]

/-- The responses of an operation that has content types and responses of its own. -/
theorem responses_of_responds (h : Responds types table op.node) :
    Swagger2.responses setup op (.list (types.map .str)) =
      Swagger2.responseMembers setup (types.map .str) table := by
  have hresponses : op.node.member "responses" = .map table := by
    simp [Entries.member, h.responses]
  have htypes : Swagger2.responseTypes (.list (types.map .str)) = .ok (types.map .str) := by
    rw [Swagger2.responseTypes, orElse_of_nonempty h.nonempty]
    rfl
  rw [Swagger2.responses, hresponses]
  simp only [htypes, ok_bind]

/-- The responses of a translated operation are read off the translated table. -/
theorem responses_visited_of_responds (h : Responds types table op.node) :
    OpenApi3.responses setup (visited op) =
      OpenApi3.responseMembers setup (edit (fun _ v => some (response types v)) table) := by
  have hresponses : (operation op.node).member "responses" =
      .map (edit (fun _ v => some (response types v)) table) := by
    simp [Entries.member, member?_responses_operation, h.responses, responseTable,
      producedTypes_of_responds h]
  rw [OpenApi3.responses, visited, hresponses]

/-- The responses of an operation are the same in both builds, and so is the header that asks for
them. -/
theorem responses_agree (setup : Setup) (h : CommonOperation op) :
    (OpenApi3.responses (translated setup) (visited op)).toOption =
        (Swagger2.responses setup op ((op.node.member "produces").orElse .null)).toOption ∧
      ∀ rs, Swagger2.responses setup op ((op.node.member "produces").orElse .null) = .ok rs →
        Swagger2.acceptHeader ((op.node.member "produces").orElse .null) =
          .ok (OpenApi3.acceptHeader rs) := by
  rcases h.responses with ⟨hproduces, hresponses⟩ | ⟨types, table, hresponds⟩
  · -- Neither content types nor responses: no shapes, and no header.
    have hnull : (op.node.member "produces").orElse .null = .null := by
      rw [Entries.member_of_member?_eq_none hproduces]
      rfl
    have hold : Swagger2.responses setup op .null = .ok [] := by
      simp only [Swagger2.responses, Entries.member, hresponses]
      rfl
    have hnew : OpenApi3.responses (translated setup) (visited op) = .ok [] := by
      simp only [OpenApi3.responses, visited, Entries.member, member?_responses_operation, hresponses]
      rfl
    rw [hnull, hold, hnew]
    refine ⟨rfl, fun rs hrs => ?_⟩
    cases hrs
    rfl
  · have hproduces : (op.node.member "produces").orElse .null = .list (types.map .str) := by
      rw [Entries.member, hresponds.produces]
      exact orElse_of_nonempty hresponds.nonempty .null
    have hsuccess : ∃ entry ∈ table, succeeds entry = true := by
      simpa only [succeeds_iff] using hresponds.success
    rw [hproduces, responses_of_responds hresponds, responses_visited_of_responds hresponds]
    exact ⟨toOption_responseMembers hresponds.nonempty hresponds.inline,
      fun rs hrs => acceptHeader_of_responseMembers hresponds.nonempty hresponds.nodup
        hresponds.inline hsuccess hrs⟩

end Responses

/-! ## Methods -/

/-- The components of a translated document are its shared parameters in their new place. -/
theorem components_document (h : Common d) : OpenApi3.components (document d) = components d := by
  rw [OpenApi3.components, member?_components_document (h.absent _ (by decide))]
  rfl

/-- The security schemes are found where they are moved to. -/
theorem securityTable_document (h : Common d) :
    OpenApi3.securityTable (document d) = Swagger2.securityTable d := by
  rw [OpenApi3.securityTable, components_document h, Entries.member, (components_lookup (d := d)).1]
  rfl

/-- A 2.0 operation that consumes nothing has no header for it. -/
theorem headers_of_common (h : CommonOperation op) (strict : Bool) (produces : Value) :
    (Swagger2.headers strict op produces ((op.node.member "consumes").orElse .null)).outcome =
      Swagger2.acceptHeader produces := by
  have hconsumes : (op.node.member "consumes").orElse .null = .null := by
    rw [Entries.member_of_member?_eq_none h.consumes]
    rfl
  rw [hconsumes, outcome_headers_null]

/-- A 3.x operation without a body has no parameter and no header for it. -/
theorem body_of_common (h : CommonOperation op) :
    (OpenApi3.body setup (visited op)).outcome = .ok ([], []) := by
  have hbody : (operation op.node).member "requestBody" = .null := by
    rw [member_operation_same fun _ => rfl, Entries.member_of_member?_eq_none h.requestBody]
  have hderef : setup.deref .requestBody .null = .ok .null := deref_of_inline rfl
  simp only [OpenApi3.body, visited, hbody, hderef, Traced.outcome_bind, Traced.outcome_lift, ok_bind]
  rfl

/-- What a document and an operation say about security stays as it is. -/
theorem security_agrees (d node : Entries) :
    (document d).member "security" = d.member "security" ∧
      (operation node).member "security" = node.member "security" ∧
        ((document d).hasMember "security" || (operation node).hasMember "security") =
          (d.hasMember "security" || node.hasMember "security") := by
  have hshared : (document d).member? "security" = d.member? "security" :=
    member?_document_same (fun _ => rfl) (by decide) (by decide)
  have hown : (operation node).member? "security" = node.member? "security" :=
    member?_operation_same fun _ => rfl
  simp only [Entries.member, Entries.hasMember, hshared, hown, and_self]

/-- The method of an operation is the same in both builds, or there is none in either. -/
theorem toOption_method (h : Common setup.document) (hop : CommonOperation op) :
    (OpenApi3.method (translated setup) (visited op)).outcome.toOption =
      (Swagger2.method setup op).outcome.toOption := by
  rcases responses_agree setup hop with ⟨hresponses, haccept⟩
  have hid : (operation op.node).member "operationId" = op.node.member "operationId" :=
    member_operation_same fun _ => rfl
  have hproduces : setup.document.member "produces" = .null :=
    Entries.member_of_member?_eq_none (h.absent _ (by decide))
  have hconsumes : setup.document.member "consumes" = .null :=
    Entries.member_of_member?_eq_none (h.absent _ (by decide))
  -- The parameters of the path stand behind those of the operation in both documents.
  have hparameters := toOption_classifyAll h hop.parameters
  rw [List.map_append, ← listMember_operation_parameters] at hparameters
  rcases security_agrees (setup.document) op.node with ⟨hshared, hown, hsecure⟩
  simp only [OpenApi3.method, Swagger2.method, Traced.outcome_bind, Traced.outcome_lift, toOption_bind,
    hproduces, hconsumes, headers_of_common hop, body_of_common hop, assemble_visited]
  simp only [translated, visited] at hresponses hparameters ⊢
  simp only [securityTable_document h, hshared, hown, hsecure, hid, hparameters, hresponses]
  refine congrArg _ (funext fun credentials => congrArg _ (funext fun name => ?_))
  cases hrs : Swagger2.responses setup op ((op.node.member "produces").orElse .null) with
  | error e =>
      simp [Except.toOption]
  | ok rs =>
      -- The 2.0 build writes the header first, the 3.x build once it has the responses.
      simp [Except.toOption, haccept rs hrs]

end Translation
end ApiView
