import ApiView.Proofs.Build.Outline
import ApiView.Proofs.Build.Shapes

/-!
# Derived — fields that follow from other fields

Templates ask simple questions, so methods and parameters carry many fields that follow from others.
Parameters are built at two places and responses in two grammars, while the fields of a method are
derived at a third.  This file shows that they agree in every method of a view:

* `Parameter.Coherent`, `Method.Coherent`: the fields that follow agree with what they follow from;
* `Parameter.coherent_of_classify`, `Body.coherent_of_parameter`: both ways to build a parameter;
* `Draft.Sound`, `sound_of_outline`: what a method is put together of;
* `coherent_of_assemble`, `methods_coherent`: every method of a view.
-/

namespace ApiView

/-! ## Agreement -/

/-- The flag of a parameter for a location. -/
def Parameter.flagAt (p : Parameter) : Location → Bool
  | .path => p.isPath
  | .query => p.isQuery
  | .header => p.isHeader
  | .body => p.isBody
  | .form => p.isForm

/-- Of the five flags exactly the one of the location is set, and the other fields of a parameter that
follow from its own agree with them. -/
structure Parameter.Coherent (p : Parameter) : Prop where
  flags : ∀ location, p.flagAt location = true ↔ location = p.location
  cardinality : p.cardinality = if p.required then "" else "?"
  isPattern : p.isPattern = true ↔ p.pattern ≠ none
  ofQuery : p.isPattern = true → p.location = .query
  defaultJson : p.defaultJson = none ↔ p.default = .null

/-- Every field of a method that follows from others agrees with them. -/
structure Method.Coherent (multiple : Bool) (m : Method) : Prop where
  parameters : ∀ p ∈ m.parameters, p.Coherent
  hasBody : m.hasBody = true ↔ ∃ p ∈ m.parameters, p.location = .body
  isForm : m.isForm = true ↔ ∃ p ∈ m.parameters, p.location = .form
  hasExtraHeader : m.hasExtraHeader = true ↔ ∃ p ∈ m.parameters, p.location = .header
  allOptional : m.allOptional = true ↔ ∀ p ∈ m.parameters, p.location ≠ .path → p.required = false
  isGet : m.isGet = true ↔ m.verb = .get
  isPost : m.isPost = true ↔ m.verb = .post
  destination : m.destination = none ↔ multiple = false
  isLast : ∀ i (h : i < m.responses.length), m.responses[i].isLast = true ↔ i + 1 = m.responses.length

/-! ## Parameters of nodes -/

namespace Value

theorem isNull_iff (v : Value) : v.isNull = true ↔ v = .null := by
  cases v with
  | scalar s =>
      cases s <;> simp [isNull, null]
  | _ =>
      simp [isNull, null]

/-- A field that is a text or null has a text iff it is not null. -/
theorem fieldText?_of_optionalTextProblems {field : String} {v : Value} :
    v.optionalTextProblems field = [] → (v.fieldText? = none ↔ v = .null) := by
  intro h
  rw [← isNull_iff]
  by_cases hnull : v.isNull = true
  · obtain rfl := (isNull_iff v).1 hnull
    exact iff_of_true rfl rfl
  · rw [optionalTextProblems, if_neg hnull] at h
    obtain ⟨text, htext⟩ := fieldText?_of_textProblems h
    simp [htext, hnull]

end Value

namespace Parameter

variable {name locationField : String} {node : Entries} {location : Location} {p : Parameter}

/-- Only the name of a query parameter can be a pattern. -/
theorem location_of_patternOf (hpattern : patternOf node location ≠ .null) : location = .query := by
  unfold patternOf at hpattern
  by_cases hquery : (location == .query) = true
  · simpa using hquery
  · simp [hquery] at hpattern

/-- A default is left out exactly if it is null. -/
theorem defaultText_eq_ok {v : Value} {text : Option String} :
    defaultText v = .ok text → (text = none ↔ v = .null) := by
  intro h
  rw [← Value.isNull_iff]
  unfold defaultText at h
  by_cases hnull : v.isNull = true
  · rw [if_pos hnull] at h
    cases h
    exact iff_of_true rfl hnull
  · rw [if_neg hnull] at h
    cases hliteral : TypeText.literal v with
    | error e =>
        rw [hliteral] at h
        cases h
    | ok literal =>
        rw [hliteral] at h
        cases h
        simp [hnull]

theorem coherent_of_ofNode : ofNode name node location = .ok p → p.Coherent := by
  intro h
  simp only [ofNode, bind_eq_ok_iff, accept_eq_ok_iff, problems, List.append_eq_nil_iff] at h
  obtain ⟨defaultJson, hdefault, type, _, ⟨⟨_, hproblems⟩, _⟩, rfl⟩ := h
  have hpattern := Value.fieldText?_of_optionalTextProblems hproblems
  exact
    { flags := by
        intro place
        -- Each flag compares the location with one place.
        cases place <;> cases location <;> simp [flagAt]
      cardinality := rfl
      isPattern := by
        have hnull := Value.isNull_iff (patternOf node location)
        rw [ne_eq, hpattern, ← hnull, Bool.not_eq_true', Bool.not_eq_true]
      ofQuery := by
        intro hset
        have hpresent : patternOf node location ≠ .null := by
          intro hnull
          rw [hnull] at hset
          cases hset
        exact location_of_patternOf hpresent
      defaultJson := defaultText_eq_ok hdefault }

/-- A parameter that is not dropped is made of its node. -/
theorem exists_ofNode_of_classify {serverSide : Bool} {v : Value} :
    (classify serverSide locationField v).outcome = .ok (some p) →
      ∃ node name location, v.table = .ok node ∧ ofNode name node location = .ok p := by
  intro h
  simp only [classify, Traced.outcome_bind, Traced.outcome_lift, bind_eq_ok_iff] at h
  obtain ⟨node, hnode, name, _, place, _, h⟩ := h
  cases place with
  | error drop =>
      simp only [Traced.outcome_bind, Traced.outcome_note, ok_bind, Traced.outcome_pure,
        Except.ok.injEq, reduceCtorEq] at h
  | ok location =>
      simp only [Traced.outcome_bind, Traced.outcome_lift, Traced.outcome_pure, bind_eq_ok_iff,
        Except.ok.injEq, Option.some.injEq] at h
      obtain ⟨_, hp, rfl⟩ := h
      exact ⟨node, name, location, hnode, hp⟩

/-- The fields of a classified parameter agree with each other. -/
theorem coherent_of_classify {serverSide : Bool} {v : Value} :
    (classify serverSide locationField v).outcome = .ok (some p) → p.Coherent := by
  intro h
  obtain ⟨_, _, _, _, hp⟩ := exists_ofNode_of_classify h
  exact coherent_of_ofNode hp

end Parameter

/-! ## The parameter of a body -/

/-- A body is sent as such or as a form, without pattern and default. -/
theorem Body.coherent_of_parameter {override : Option String} {operation body : Entries}
    {strict : Bool} {place : String} {p : Parameter} {contentType : Option String} :
    (Body.parameter override operation strict place body).outcome = .ok (p, contentType) →
      p.Coherent := by
  intro h
  simp only [Body.parameter, Traced.outcome_bind, Traced.outcome_lift, Traced.outcome_pure,
    bind_eq_ok_iff, accept_eq_ok_iff, Except.ok.injEq, Prod.mk.injEq] at h
  obtain ⟨chosen, _, name, _, type, _, _, ⟨_, rfl⟩, rfl, _⟩ := h
  have hlocation : ∀ form : Bool, ∀ place : Location,
      Parameter.flagAt
          { name := name
            camelCaseName := Naming.camelCase name
            location := if form then .form else .body
            isBody := (if form then Location.form else .body) == .body
            isForm := (if form then Location.form else .body) == .form } place = true ↔
        place = if form then .form else .body := by
    intro form place
    cases form <;> cases place <;> simp [Parameter.flagAt]
  exact
    { flags := hlocation (chosen.any formContentTypes.contains)
      cardinality := rfl
      isPattern := by simp
      ofQuery := by simp
      defaultJson := iff_of_true rfl rfl }

/-! ## Methods -/

namespace Build

variable {grammar : Grammar} {setup : Setup} {op : Operation} {m : Method} {draft : Draft}

/-- The parameters of a draft are coherent, and none of its responses is marked. -/
structure Draft.Sound (draft : Draft) : Prop where
  parameters : ∀ p ∈ draft.parameters, p.Coherent
  responses : Unmarked draft.responses

/-- The fields of every classified parameter agree with each other. -/
theorem coherent_of_classifyAll {locationField : String} {nodes : List Value}
    {parameters : List Parameter} :
    (classifyAll setup locationField nodes).outcome = .ok parameters →
      ∀ p ∈ parameters, p.Coherent := by
  intro h p hp
  obtain ⟨rows, hrows, rfl⟩ := classifyAll_eq_ok_iff.1 h
  obtain ⟨p?, hmem, rfl⟩ := List.mem_filterMap.1 hp
  obtain ⟨raw, _, hraw⟩ := exists_match hrows.flip hmem
  simp only [classifyRaw, bind_eq_ok_iff] at hraw
  obtain ⟨node, _, hnode⟩ := hraw
  split at hnode
  · exact Parameter.coherent_of_classify hnode
  · cases hnode

/-- What a grammar reads off an operation agrees with itself. -/
theorem sound_of_outline : outline grammar setup op = .ok draft → draft.Sound := by
  intro h
  cases grammar with
  | legacy =>
      simp only [outline, bind_eq_ok_iff, pure_eq_ok_iff] at h
      obtain ⟨_, _, _, _, _, _, rfl⟩ := h
      exact ⟨List.forall_mem_nil _, List.forall_mem_nil _⟩
  | swagger2 =>
      simp only [outline, bind_eq_ok_iff, pure_eq_ok_iff] at h
      obtain ⟨_, _, _, _, _, _, responses, hresponses, rfl⟩ := h
      exact ⟨List.forall_mem_nil _, Swagger2.unmarked_of_responses hresponses⟩
  | openApi3 =>
      simp only [outline, bind_eq_ok_iff, pure_eq_ok_iff] at h
      obtain ⟨_, _, _, _, responses, hresponses, body, hbody, rfl⟩ := h
      refine ⟨?_, OpenApi3.unmarked_of_responses hresponses⟩
      -- The only parameter of an outline stands for the body of the request, if there is one.
      simp only [OpenApi3.body, Traced.outcome_bind, Traced.outcome_lift, bind_eq_ok_iff] at hbody
      obtain ⟨node, _, hbody⟩ := hbody
      cases node with
      | map node =>
          simp only [Traced.outcome_bind, Traced.outcome_lift, Traced.outcome_pure, bind_eq_ok_iff,
            Except.ok.injEq] at hbody
          obtain ⟨place, _, ⟨p, contentType⟩, hp, headers, _, rfl⟩ := hbody
          exact List.forall_mem_singleton.2 (Body.coherent_of_parameter hp)
      | _ =>
          cases hbody
          exact List.forall_mem_nil _

/-- A parameter travels at a location if there is one with that location. -/
theorem travelsAt_iff {location : Location} {parameters : List Parameter} :
    travelsAt location parameters = true ↔ ∃ p ∈ parameters, p.location = location := by
  simp [travelsAt]

/-- All parameters are optional if none outside the path is required. -/
theorem allOptional_iff {parameters : List Parameter} :
    allOptional parameters = true ↔ ∀ p ∈ parameters, p.location ≠ .path → p.required = false := by
  simp [allOptional]

theorem destinationOf_eq_none_iff {multiple : Bool} {tags : List String} :
    destinationOf multiple tags = none ↔ multiple = false := by
  cases multiple with
  | false =>
      exact iff_of_true rfl rfl
  | true =>
      cases tags <;> simp [destinationOf]

/-- A method that is put together of a sound draft is coherent. -/
theorem coherent_of_assemble {options : Options} (hdraft : draft.Sound) :
    assemble options op draft = .ok m → m.Coherent options.multiple := by
  intro h
  simp only [assemble, bind_eq_ok_iff, accept_eq_ok_iff] at h
  obtain ⟨tags, _, _, rfl⟩ := h
  exact
    { parameters := hdraft.parameters
      hasBody := travelsAt_iff
      isForm := travelsAt_iff
      hasExtraHeader := travelsAt_iff
      allOptional := allOptional_iff
      isGet := beq_iff_eq
      isPost := beq_iff_eq
      destination := destinationOf_eq_none_iff
      isLast := fun _ hi => isLast_markLast_iff hdraft.responses hi }

/-- The derived fields of a method agree with those that they are derived from. -/
theorem coherent_of_method :
    (method grammar setup op).outcome = .ok m → m.Coherent setup.options.multiple := by
  intro h
  obtain ⟨declared, draft, hdeclared, hdraft, hm⟩ := method_eq_ok_iff.1 h
  have hown := sound_of_outline hdraft
  have hall : (draft.withDeclared declared).Sound :=
    { parameters := List.forall_mem_append.2 ⟨coherent_of_classifyAll hdeclared, hown.parameters⟩
      responses := hown.responses }
  exact coherent_of_assemble hall hm

/-- In every method of a view the fields that follow from others agree with them. -/
theorem methods_coherent {document : Value} {options : Options} {target : Target} {v : View}
    (h : (view grammar document options target).outcome = .ok v) :
    ∀ m ∈ v.methods, m.Coherent options.multiple := by
  intro m hm
  obtain ⟨d, drafts, _, hviewed⟩ := viewed_of_view h
  obtain ⟨op, _, draft, hdraft, hnamed, _⟩ := exists_match hviewed.methods_forall₂.flip hm
  have hcoherent := coherent_of_method hdraft
  -- Naming a method keeps everything that coherence is about.
  rw [hnamed]
  exact { hcoherent with }

/-- An operation with a parameter in its path, one with a pattern and a default, a form that has to be
sent, and a response in two content types. -/
def formDocument : Entries :=
  [(.str "paths", .object
    [("/pets/{id}", .object
      [("post", .object
        [("parameters", .list
            [.object [("name", .str "id"), ("in", .str "path"), ("required", .bool true)],
              .object [("name", .str "tag"), ("in", .str "query"), ("x-name-pattern", .str "tag.*"),
                ("default", .int 7)]]),
          ("requestBody", .object
            [("required", .bool true), ("content", .object [("multipart/form-data", .object [])])]),
          ("responses", .object
            [("200", .object
              [("content", .object [("text/plain", .object []), ("text/csv", .object [])])])])])])])]

/-- Whether a method sends a form or a body and needs no arguments, which of its responses is the last
one, and the defaults of its parameters. -/
def derivedSummary (m : Method) : List Bool × List Bool × List (Option String) :=
  ([m.isForm, m.hasBody, m.allOptional], m.responses.map (·.isLast),
    m.parameters.map (·.defaultJson))

theorem formDocument_methods_coherent :
    ∃ v, (view .openApi3 (.map formDocument) { multiple := true } .custom).outcome = .ok v ∧
      v.methods.map derivedSummary =
        [([true, false, false], [false, true], [none, some "7", none])] ∧
      ∀ m ∈ v.methods, m.Coherent true := by
  have hrun : (view .openApi3 (.map formDocument) { multiple := true } .custom).outcome.toOption.map
      (fun v => v.methods.map derivedSummary) =
        some [([true, false, false], [false, true], [none, some "7", none])] := by
    decide +kernel
  obtain ⟨v, hv, hsummary⟩ := exists_ok_of_toOption_map hrun
  exact ⟨v, hv, hsummary, methods_coherent hv⟩

end Build

end ApiView
