import ApiView.Proofs.Build.Drafts
import ApiView.Proofs.Translation.Responses
import ApiView.Proofs.Upgrade.Parameters

/-!
# Methods — one operation in both grammars

An operation that both grammars can say gives the same method in both builds, or none in either:

* `Upgrade.visited`, `Upgrade.upgraded`: an operation and a setup after the translation;
* `member?_document_of_notMem`, `member?_operation_same`: where members are found after the translation;
* `outcome_classifyAll`: its parameters are the same;
* `credentials_agree`: it needs the same credentials;
* `toOption_method`: its method is the same.
-/

namespace ApiView
namespace Upgrade

open Build
open Translation (edit moved member?_edit_kept member?_edit_same member?_moved_self
  member?_moved_of_ne deref_of_inline)

variable {d node : Entries} {setup : Setup} {op : Operation}

/-- An operation as the translated document has it. -/
def visited (op : Operation) : Operation :=
  { op with node := operation op.node }

/-- A setup that builds the translated document. -/
def upgraded (setup : Setup) : Setup :=
  { setup with document := document setup.document }

/-! ## Members of a translated document -/

/-- The names that a translated document may use. -/
def newNames : List String :=
  ["swagger", "paths", "definitions", "securityDefinitions"]

/-- What is not moved has no place in the translated document. -/
theorem member?_document_of_notMem {name : String} (hname : name ∉ newNames) (d : Entries) :
    (document d).member? name = none := by
  simp only [newNames, List.mem_cons, List.not_mem_nil, or_false, not_or] at hname
  obtain ⟨hversion, hpaths, hdefinitions, hschemes⟩ := hname
  have hkey : Scalar.str "swagger" ≠ .str name := fun heq => hversion (Scalar.str.inj heq).symm
  rw [document, Entries.member?_cons_of_ne hkey, Entries.member?_append, Entries.member?_append,
    member?_moved_of_ne (Ne.symm hpaths), member?_moved_of_ne (Ne.symm hdefinitions),
    member?_moved_of_ne (Ne.symm hschemes)]
  rfl

theorem member_document_of_notMem {name : String} (hname : name ∉ newNames) (d : Entries) :
    (document d).member name = .null :=
  Entries.member_of_member?_eq_none (member?_document_of_notMem hname d)

theorem member?_paths (d : Entries) :
    (document d).member? "paths" = (d.member? "apis").map paths := by
  rw [document, Entries.member?_cons_of_ne (by decide), Entries.member?_append, Entries.member?_append,
    member?_moved_self, member?_moved_of_ne (by decide), member?_moved_of_ne (by decide),
    Option.or_none, Option.or_none]

theorem member?_definitions (d : Entries) :
    (document d).member? "definitions" = d.member? "models" := by
  rw [document, Entries.member?_cons_of_ne (by decide), Entries.member?_append, Entries.member?_append,
    member?_moved_self, member?_moved_of_ne (by decide), member?_moved_of_ne (by decide),
    Option.or_none, Option.none_or, Option.map_id]
  rfl

theorem member?_securityDefinitions (d : Entries) :
    (document d).member? "securityDefinitions" = d.member? "authorizations" := by
  rw [document, Entries.member?_cons_of_ne (by decide), Entries.member?_append, Entries.member?_append,
    member?_moved_self, member?_moved_of_ne (by decide), member?_moved_of_ne (by decide),
    Option.none_or, Option.none_or, Option.map_id]
  rfl

/-! ## Members of a translated operation -/

theorem member?_security (node : Entries) {name : String} (hname : name ≠ "security") :
    (security node).member? name = none := by
  have hkey : Scalar.str "security" ≠ .str name := by simpa using hname.symm
  unfold security
  dsimp only
  split
  · exact Entries.member?_cons_of_ne hkey _ []
  · rfl

/-- The names that a translated operation has from elsewhere, or no longer has. -/
def changedNames : List String :=
  ["operationId", "nickname", "security"]

/-- Members that are not renamed are those of the edited operation. -/
theorem member?_operation {name : String} (hname : name ∉ changedNames) (node : Entries) :
    (operation node).member? name = (edit operationMember node).member? name := by
  simp only [changedNames, List.mem_cons, List.not_mem_nil, or_false, not_or] at hname
  obtain ⟨hid, hnickname, hsecurity⟩ := hname
  rw [operation, Entries.member?_append, member?_security node hsecurity,
    member?_renamed_of_ne hnickname hid, Option.or_none]

theorem member?_operation_same {name : String} (hname : name ∉ changedNames)
    (hsame : ∀ v, operationMember (.str name) v = some v) (node : Entries) :
    (operation node).member? name = node.member? name := by
  rw [member?_operation hname, member?_edit_same hsame]

theorem member_operation_same {name : String} (hname : name ∉ changedNames)
    (hsame : ∀ v, operationMember (.str name) v = some v) (node : Entries) :
    (operation node).member name = node.member name := by
  rw [Entries.member, Entries.member, member?_operation_same hname hsame]

theorem listMember_parameters (node : Entries) :
    listMember (operation node) "parameters" = (listMember node "parameters").map parameter := by
  have hparameters : (operation node).member? "parameters" =
      (node.member? "parameters").map parameterList := by
    rw [member?_operation (by decide)]
    exact member?_edit_kept (fun _ => rfl) node
  rw [listMember, hparameters, listMember]
  cases node.member? "parameters" with
  | none =>
      rfl
  | some v =>
      cases v <;> rfl

/-- A translated operation says the same about itself. -/
theorem member_said (node : Entries) :
    ∀ name ∈ ["tags", "externalDocs", "description", "summary"],
      (operation node).member name = node.member name := by
  have hsame : ∀ name ∈ ["tags", "externalDocs", "description", "summary"],
      ∀ v, operationMember (.str name) v = some v := by
    simp [operationMember]
  have hother : ∀ name ∈ ["tags", "externalDocs", "description", "summary"], name ∉ changedNames := by
    decide
  intro name hname
  exact member_operation_same (hother name hname) (hsame name hname) node

section Common

variable (h : CommonOperation node)

include h

/-- An operation has no members but those that both grammars can say. -/
theorem CommonOperation.member?_eq_none {name : String} (hname : name ∉ operationNames) :
    node.member? name = none :=
  Entries.member?_of_names h.names hname

/-- An operation of the fragment has no members but the ones listed. -/
theorem CommonOperation.member_eq_null {name : String} (hname : name ∉ operationNames) :
    node.member name = .null :=
  Entries.member_of_member?_eq_none (h.member?_eq_none hname)

theorem member?_operationId : (operation node).member? "operationId" = node.member? "nickname" := by
  have hfree : (edit operationMember node).member? "operationId" = none :=
    (member?_edit_same (fun _ => rfl) node).trans (h.member?_eq_none (by decide))
  rw [operation, Entries.member?_append, member?_renamed hfree, member?_edit_same fun _ => rfl,
    member?_security node (by decide), Option.or_none]

/-- The authorizations of an operation become its one requirement. -/
theorem member?_security_operation :
    (operation node).member? "security" =
      if (node.member "authorizations").truthy then some (.list [node.member "authorizations"])
      else none := by
  have hnone : (edit operationMember node).member? "security" = none :=
    (member?_edit_same (fun _ => rfl) node).trans (h.member?_eq_none (by decide))
  rw [operation, Entries.member?_append, member?_renamed_of_ne (by decide) (by decide), hnone,
    Option.none_or, security]
  split
  · exact Entries.member?_cons_self "security" _ []
  · rfl

end Common

/-! ## Parameters -/

/-- Parameter nodes are classified alike. -/
theorem outcome_classifyAll {nodes : List Value} (hnodes : ∀ node ∈ nodes, CommonParameter node) :
    (classifyAll (upgraded setup) "in" (nodes.map parameter)).outcome =
      (classifyAll setup "paramType" nodes).outcome := by
  induction nodes with
  | nil =>
      rfl
  | cons node rest ih =>
      have hnode := hnodes node (List.mem_cons_self ..)
      have ih := ih fun node hmem => hnodes node (List.mem_cons_of_mem _ hmem)
      -- Neither node is a reference, so both builds look at the nodes themselves.
      have hold : setup.deref .parameter node = .ok node := deref_of_inline hnode.pointer?
      have hnew : (upgraded setup).deref .parameter (parameter node) = .ok (parameter node) :=
        deref_of_inline (parameter_of_common hnode).2
      have hclassify := classify_parameter setup.serverSide hnode
      simp only [List.map_cons, classifyAll, hold, hnew, (parameter_of_common hnode).1, hnode.isMap,
        if_true, Traced.outcome_bind, Traced.outcome_lift, ok_bind]
      refine congrArg₂ _ hclassify (funext fun parameter? => ?_)
      cases parameter? with
      | none =>
          exact ih
      | some p =>
          simp only [Traced.outcome_bind, ih]

/-- The parameters of an operation are classified alike. -/
theorem outcome_classifyAll_operation (h : CommonOperation node) :
    (classifyAll (upgraded setup) "in" (listMember (operation node) "parameters")).outcome =
      (classifyAll setup "paramType" (listMember node "parameters")).outcome := by
  rw [listMember_parameters]
  refine outcome_classifyAll fun raw hraw => ?_
  rw [listMember] at hraw
  cases hparameters : node.member? "parameters" with
  | none =>
      simp [hparameters] at hraw
  | some v =>
      obtain ⟨nodes, rfl, hcommon⟩ := h.parameters v hparameters
      rw [hparameters] at hraw
      exact hcommon raw hraw

/-! ## Credentials -/

/-- The security schemes are found where they are moved to. -/
theorem securityTable_document (d : Entries) :
    Swagger2.securityTable (document d) = Legacy.securityTable d := by
  rw [Swagger2.securityTable, Legacy.securityTable, Entries.member, Entries.member,
    member?_securityDefinitions]

/-- The authorizations of an operation are a mapping, if there are any. -/
theorem authorizations_of_common (h : CommonOperation node) :
    node.member "authorizations" = .null ∨
      ∃ entries, node.member "authorizations" = .map entries := by
  cases hfound : node.member? "authorizations" with
  | none =>
      exact .inl (Entries.member_of_member?_eq_none hfound)
  | some v =>
      refine .inr ?_
      have hmap := h.authorizations v hfound
      cases v with
      | map entries =>
          exact ⟨entries, by rw [Entries.member, hfound]; rfl⟩
      | _ =>
          cases hmap

/-- An operation needs the same credentials. -/
theorem credentials_agree (schemes : Value) (h : CommonOperation node) :
    Security.requiredCredentials schemes .null ((operation node).member "security") =
      Security.requiredCredentials schemes .null
        (Legacy.requirements (node.member "authorizations")) := by
  have hsecurity := member?_security_operation h
  rw [Entries.member, hsecurity]
  rcases authorizations_of_common h with hnone | ⟨entries, hentries⟩
  · rw [hnone]
    rfl
  · rw [hentries]
    cases entries with
    | nil =>
        -- A requirement without names is as good as no requirement.
        rfl
    | cons entry rest =>
        rfl

/-- An operation mentions security iff it has authorizations. -/
theorem mentionsSecurity_agrees (h : CommonOperation node) :
    mentionsSecurity .swagger2 (document d) (operation node) = mentionsSecurity .legacy d node := by
  have hshared : (document d).member? "security" = none := member?_document_of_notMem (by decide) d
  simp only [mentionsSecurity, Entries.hasMember, hshared, member?_security_operation h]
  cases (node.member "authorizations").truthy <;> rfl

/-! ## Methods -/

/-- A common operation has no responses. -/
theorem responses_of_common (h : CommonOperation op.node) (produces : Value) :
    Swagger2.responses (upgraded setup) (visited op) produces = .ok [] := by
  have hnone : (operation op.node).member "responses" = .null := by
    rw [member_operation_same (by decide) fun _ => rfl, h.member_eq_null (by decide)]
  rw [Swagger2.responses, visited, hnone]
  rfl

/-- The headers of an operation are the same. -/
theorem headers_agree (setup : Setup) (h : CommonOperation op.node) :
    (Swagger2.headers (upgraded setup).options.strictContentType (visited op)
        (((visited op).node.member "produces").orElse ((upgraded setup).document.member "produces"))
        (((visited op).node.member "consumes").orElse
          ((upgraded setup).document.member "consumes"))).outcome =
      Legacy.headers op.node := by
  have habsent : ∀ name ∈ ["produces", "consumes"],
      (upgraded setup).document.member name = .null := by
    intro name hname
    have hother : ∀ name ∈ ["produces", "consumes"], name ∉ newNames := by decide
    exact member_document_of_notMem (hother name hname) setup.document
  have hconsumes : (visited op).node.member "consumes" = .null := by
    rw [visited, member_operation_same (by decide) fun _ => rfl, h.member_eq_null (by decide)]
  have hproduces : (visited op).node.member "produces" = op.node.member "produces" :=
    member_operation_same (by decide) (fun _ => rfl) op.node
  have hnothing : Value.orElse .null .null = .null := rfl
  rw [habsent "produces" (by decide), habsent "consumes" (by decide), hconsumes, hproduces,
    hnothing, outcome_headers_null, Swagger2.acceptHeader, Legacy.headers]
  by_cases htruthy : (op.node.member "produces").truthy = true
  · simp only [Value.orElse, htruthy, if_true]
  · rw [Value.orElse, if_neg htruthy, if_neg htruthy]
    rfl

/-- What a legacy operation is summed up by is what the translated operation says about itself. -/
theorem summaryOf_operation (h : CommonOperation node) :
    summaryOf .null (operation node) =
      summaryOf ((node.member "summary").orElse (node.member "notes")) node := by
  have habsent : ∀ name ∈ ["description", "notes"], node.member name = .null := by
    intro name hname
    have hother : ∀ name ∈ ["description", "notes"], name ∉ operationNames := by decide
    exact h.member_eq_null (hother name hname)
  have hdescription := member_said node "description" (by decide)
  have hsummary := member_said node "summary" (by decide)
  rw [summaryOf, summaryOf, hdescription, hsummary, habsent "description" (by decide),
    habsent "notes" (by decide)]
  -- An empty summary is passed over for the notes, of which there are none, and comes last anyway.
  by_cases htruthy : (node.member "summary").truthy = true
  · rw [Value.orElse, Value.orElse, if_pos htruthy, Value.isNull_of_truthy htruthy]
    rfl
  · rw [Value.orElse, Value.orElse, if_neg htruthy]

/-- An operation that is summed up gives the same method as the translated one, from the same
draft. -/
theorem assemble_visited (h : CommonOperation op.node) (options : Options) {draft : Draft}
    (hsummary : draft.summary = .null) :
    assemble options (visited op) draft =
      assemble options op
        { draft with summary := (op.node.member "summary").orElse (op.node.member "notes") } := by
  have hsaid := summaryOf_operation h
  simp only [assemble, tagsOf, visited, hsummary, hsaid, member_said op.node "tags" (by decide),
    member_said op.node "externalDocs" (by decide)]

/-- The method of an operation is the same in both builds, or there is none in either. -/
theorem toOption_method (setup : Setup) (h : CommonOperation op.node) (hshared : op.shared = []) :
    (Swagger2.method (upgraded setup) (visited op)).outcome.toOption =
      (Legacy.method setup op).outcome.toOption := by
  have hcredentials :
      Security.requiredCredentials (Swagger2.securityTable (upgraded setup).document)
          ((upgraded setup).document.member "security") ((visited op).node.member "security") =
        Security.requiredCredentials (Legacy.securityTable setup.document) .null
          (Legacy.requirements (op.node.member "authorizations")) := by
    have hnone : (document setup.document).member "security" = .null :=
      member_document_of_notMem (by decide) setup.document
    rw [upgraded, hnone, securityTable_document]
    exact credentials_agree _ h
  have hname : baseName (visited op) ((visited op).node.member "operationId") =
      baseName op (op.node.member "nickname") := by
    have hid : (operation op.node).member "operationId" = op.node.member "nickname" := by
      rw [Entries.member, Entries.member, member?_operationId h]
    exact congrArg (baseName op) hid
  have hparameters :
      (classifyAll (upgraded setup) "in"
          (listMember (visited op).node "parameters" ++ (visited op).shared)).outcome =
        (classifyAll setup "paramType" (listMember op.node "parameters")).outcome := by
    have hnone : (visited op).shared = [] := hshared
    rw [hnone, List.append_nil]
    exact outcome_classifyAll_operation h
  have hsecure : ((upgraded setup).document.hasMember "security" ||
      (visited op).node.hasMember "security") = (op.node.member "authorizations").truthy :=
    mentionsSecurity_agrees (d := setup.document) h
  simp only [Swagger2.method, Legacy.method, Traced.outcome_bind, Traced.outcome_lift, toOption_bind,
    hcredentials, hname, headers_agree setup h, hparameters, responses_of_common h, hsecure,
    assemble_visited h]
  -- The legacy build writes the header before it names the method.
  refine congrArg _ (funext fun credentials => ?_)
  rw [Option.bind_comm]
  rfl

end Upgrade
end ApiView
