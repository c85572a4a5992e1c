import ApiView.Proofs.Build.Surroundings

/-!
# Outline — a method apart from its declared parameters

Every grammar classifies the parameter nodes of an operation, reads everything else off the operation,
and puts the two together.  The order differs from grammar to grammar, which matters only for the reason
of a failure:

* `locationField`, `parameterNodes`: what is classified, and by which member;
* `classifyRaw`, `classifyAll_eq_ok_iff`: parameter nodes are classified one by one;
* `outline`: what is read apart from the parameter nodes;
* `method_eq_ok_iff`: a method is its outline with the classified parameters put in;
* `bodyParameters`, `parameters_of_outline`: the only parameter of an outline is the body of a request;
* `outline_serverSide`: an outline is the same for every target.
-/

namespace ApiView

/-- A draft with declared parameters in front of its own. -/
def Build.Draft.withDeclared (draft : Build.Draft) (declared : List Parameter) : Build.Draft :=
  { draft with parameters := declared ++ draft.parameters }

namespace Build

variable {grammar : Grammar} {setup : Setup} {op : Operation} {m : Method} {draft : Draft}

/-! ## Parameter nodes -/

/-- The member of a parameter node that names its place. -/
def locationField : Grammar → String
  | .legacy => "paramType"
  | .swagger2 | .openApi3 => "in"

/-- The parameter nodes of an operation: its own, and those that its path shares. -/
def parameterNodes : Grammar → Operation → List Value
  | .legacy, op => listMember op.node "parameters"
  | .swagger2, op | .openApi3, op => listMember op.node "parameters" ++ op.shared

/-- The parameter of one raw node, unless the node is dropped. -/
def classifyRaw (setup : Setup) (locationField : String) (raw : Value) :
    Except Failure (Option Parameter) := do
  let node ← setup.deref .parameter raw
  if node.isMap then (Parameter.classify setup.serverSide locationField node).outcome else return none

/-- Raw nodes are classified one after the other. -/
theorem outcome_classifyAll (setup : Setup) (locationField : String) (nodes : List Value) :
    (classifyAll setup locationField nodes).outcome =
      nodes.mapM (classifyRaw setup locationField) >>= fun rows => .ok (rows.filterMap id) := by
  induction nodes with
  | nil =>
      rfl
  | cons raw rest ih =>
      simp only [classifyAll, List.mapM_cons, classifyRaw, Traced.outcome_bind, Traced.outcome_lift,
        bind_assoc, pure_bind]
      refine congrArg _ (funext fun node => ?_)
      -- A node that is no mapping is read like one that is dropped.
      by_cases hmap : node.isMap = true
      · simp only [hmap, if_true, Traced.outcome_bind]
        refine congrArg _ (funext fun p? => ?_)
        cases p? with
        | none =>
            exact ih
        | some p =>
            simp only [Traced.outcome_bind, ih, bind_assoc, ok_bind]
            rfl
      · simp only [hmap]
        exact ih

/-- The classified parameters are those of the raw nodes that have one. -/
theorem classifyAll_eq_ok_iff {locationField : String} {nodes : List Value}
    {parameters : List Parameter} :
    (classifyAll setup locationField nodes).outcome = .ok parameters ↔
      ∃ rows, List.Forall₂ (fun raw p? => classifyRaw setup locationField raw = .ok p?) nodes rows ∧
        rows.filterMap id = parameters := by
  simp only [outcome_classifyAll, bind_eq_ok_iff, mapM_eq_ok_iff, Except.ok.injEq]

/-! ## Outlines -/

/-- What an operation produces: its own list, or else that of the document. -/
def effectiveProduces (setup : Setup) (op : Operation) : Value :=
  (op.node.member "produces").orElse (setup.document.member "produces")

/-- What a grammar reads off an operation apart from its parameter nodes. -/
def outline : Grammar → Setup → Operation → Except Failure Draft
  | .legacy, setup, op => do
    let authorizations := op.node.member "authorizations"
    let credentials ← Security.requiredCredentials (Legacy.securityTable setup.document) .null
      (Legacy.requirements authorizations)
    let name ← baseName op (op.node.member "nickname")
    let headers ← Legacy.headers op.node
    return {
      name := name
      credentials := credentials
      isSecure := authorizations.truthy
      parameters := []
      headers := headers
      responses := []
      summary := (op.node.member "summary").orElse (op.node.member "notes") }
  | .swagger2, setup, op => do
    let credentials ← Security.requiredCredentials (Swagger2.securityTable setup.document)
      (setup.document.member "security") (op.node.member "security")
    let name ← baseName op (op.node.member "operationId")
    let headers ← (Swagger2.headers setup.options.strictContentType op (effectiveProduces setup op)
      ((op.node.member "consumes").orElse (setup.document.member "consumes"))).outcome
    let responses ← Swagger2.responses setup op (effectiveProduces setup op)
    return {
      name := name
      credentials := credentials
      isSecure := setup.document.hasMember "security" || op.node.hasMember "security"
      parameters := []
      headers := headers
      responses := responses }
  | .openApi3, setup, op => do
    let credentials ← Security.requiredCredentials (OpenApi3.securityTable setup.document)
      (setup.document.member "security") (op.node.member "security")
    let name ← baseName op (op.node.member "operationId")
    let responses ← OpenApi3.responses setup op
    let body ← (OpenApi3.body setup op).outcome
    return {
      name := name
      credentials := credentials
      isSecure := setup.document.hasMember "security" || op.node.hasMember "security"
      parameters := body.1
      headers := OpenApi3.acceptHeader responses ++ body.2
      responses := responses }

/-- A method is its outline with the classified parameters put in. -/
theorem method_eq_ok_iff :
    (method grammar setup op).outcome = .ok m ↔
      ∃ declared draft,
        (classifyAll setup (locationField grammar) (parameterNodes grammar op)).outcome = .ok declared ∧
          outline grammar setup op = .ok draft ∧
            assemble setup.options op (draft.withDeclared declared) = .ok m := by
  cases grammar with
  | legacy =>
      simp only [method, Legacy.method, outline, locationField, parameterNodes, Draft.withDeclared,
        Traced.outcome_bind, Traced.outcome_lift, bind_eq_ok_iff, pure_eq_ok_iff]
      constructor
      -- Headers are read before the name, and parameters after both.
      · rintro ⟨credentials, hcredentials, headers, hheaders, name, hname, declared, hdeclared, hm⟩
        refine ⟨declared, _, hdeclared,
          ⟨credentials, hcredentials, name, hname, headers, hheaders, rfl⟩, ?_⟩
        rwa [List.append_nil]
      · rintro ⟨declared, _, hdeclared,
          ⟨credentials, hcredentials, name, hname, headers, hheaders, rfl⟩, hm⟩
        rw [List.append_nil] at hm
        exact ⟨credentials, hcredentials, headers, hheaders, name, hname, declared, hdeclared, hm⟩
  | swagger2 =>
      simp only [method, Swagger2.method, outline, locationField, parameterNodes, Draft.withDeclared,
        effectiveProduces, Traced.outcome_bind, Traced.outcome_lift, bind_eq_ok_iff, pure_eq_ok_iff]
      constructor
      -- Parameters are read between the headers and the responses.
      · rintro ⟨credentials, hcredentials, name, hname, headers, hheaders, declared, hdeclared,
          responses, hresponses, hm⟩
        refine ⟨declared, _, hdeclared, ⟨credentials, hcredentials, name, hname, headers, hheaders,
          responses, hresponses, rfl⟩, ?_⟩
        rwa [List.append_nil]
      · rintro ⟨declared, _, hdeclared, ⟨credentials, hcredentials, name, hname, headers, hheaders,
          responses, hresponses, rfl⟩, hm⟩
        rw [List.append_nil] at hm
        exact ⟨credentials, hcredentials, name, hname, headers, hheaders, declared, hdeclared,
          responses, hresponses, hm⟩
  | openApi3 =>
      simp only [method, OpenApi3.method, outline, locationField, parameterNodes, Draft.withDeclared,
        Traced.outcome_bind, Traced.outcome_lift, bind_eq_ok_iff, pure_eq_ok_iff]
      constructor
      -- Parameters are read first, and the body of the request last.
      · rintro ⟨credentials, hcredentials, name, hname, declared, hdeclared, responses, hresponses,
          body, hbody, hm⟩
        exact ⟨declared, _, hdeclared, ⟨credentials, hcredentials, name, hname, responses, hresponses,
          body, hbody, rfl⟩, hm⟩
      · rintro ⟨declared, _, hdeclared, ⟨credentials, hcredentials, name, hname, responses, hresponses,
          body, hbody, rfl⟩, hm⟩
        exact ⟨credentials, hcredentials, name, hname, declared, hdeclared, responses, hresponses,
          body, hbody, hm⟩

/-- The parameters that stand for the body of a request: none outside of 3.x documents, and at most
one in them. -/
def bodyParameters : Grammar → Setup → Operation → List Parameter
  | .legacy, _, _ | .swagger2, _, _ => []
  | .openApi3, setup, op => ((OpenApi3.body setup op).outcome.toOption.map (·.1)).getD []

theorem parameters_of_outline :
    outline grammar setup op = .ok draft → draft.parameters = bodyParameters grammar setup op := by
  intro h
  cases grammar with
  | legacy =>
      simp only [outline, bind_eq_ok_iff, pure_eq_ok_iff] at h
      obtain ⟨_, _, _, _, _, _, rfl⟩ := h
      rfl
  | swagger2 =>
      simp only [outline, bind_eq_ok_iff, pure_eq_ok_iff] at h
      obtain ⟨_, _, _, _, _, _, _, _, rfl⟩ := h
      rfl
  | openApi3 =>
      simp only [outline, bind_eq_ok_iff, pure_eq_ok_iff] at h
      obtain ⟨_, _, _, _, _, _, body, hbody, rfl⟩ := h
      simp [bodyParameters, hbody, Except.toOption]

/-- Only the classification of parameters asks for the target. -/
theorem outline_serverSide (grammar : Grammar) (document : Entries) (options : Options)
    (serverSide serverSide' : Bool) (op : Operation) :
    outline grammar ⟨document, options, serverSide⟩ op =
      outline grammar ⟨document, options, serverSide'⟩ op := by
  have hrefers : Setup.RefersLike ⟨document, options, serverSide⟩ ⟨document, options, serverSide'⟩ :=
    fun _ _ => rfl
  cases grammar with
  | legacy =>
      rfl
  | swagger2 =>
      simp only [outline, effectiveProduces, Swagger2.responses_congr hrefers]
  | openApi3 =>
      simp only [outline, OpenApi3.responses_congr hrefers, OpenApi3.body_congr hrefers rfl]

end Build
end ApiView
