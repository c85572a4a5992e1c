import ApiView.Proofs.Operation.Change
import ApiView.Proofs.Translation.Methods

/-!
# Views — the same view from both grammars

A document that both grammars can say has the same view in both, apart from the grammar itself, or no
view in either:

* `walkPaths_paths`: the translated document is walked in the same steps;
* `toOption_draftAll`: the same methods are drafted on the way;
* `detect_document`: the translated document is a 3.x document;
* `views_agree`: the two builds agree.
-/

namespace ApiView
namespace Translation

open Build

variable {d : Entries}

/-! ## Walks -/

/-- A step as the walk of the translated document has it. -/
def step : Step → Step
  | .visit op => .visit (visited op)
  | s => s

/-- The translation changes operations and the parameters that they share. -/
def change : Change where
  node := operation
  shared := List.map parameter
  method_node := fun _ => member?_operation_same fun _ => rfl
  shared_nil := rfl

/-- The walk of a translated path item is a translated walk. -/
theorem walkItem_edit (path : Scalar) (entries : Entries) :
    walkItem path (sharedParameters (edit (fun key v => some (itemMember key v)) entries))
        (edit (fun key v => some (itemMember key v)) entries) =
      (walkItem path (sharedParameters entries) entries).map step :=
  change.walkItem_item path entries

/-- The translated document is walked in the same steps. -/
theorem walkPaths_paths (v : Value) : walkPaths (paths v) = (walkPaths v).map step := by
  cases v with
  | map table =>
      simp only [walkPaths, paths, Value.entries?, Option.getD_some]
      induction table with
      | nil =>
          rfl
      | cons entry rest ih =>
          rcases entry with ⟨path, v⟩
          rw [edit_cons_kept]
          cases v with
          | map entries =>
              have hitem : item (.map entries) =
                  .map (edit (fun key v => some (itemMember key v)) entries) := rfl
              simp only [hitem, walkTable, ih, walkItem_edit, List.map_append]
          | _ =>
              exact ih
  | _ =>
      rfl

/-! ## Drafts -/

/-- The methods of a walk are the same in both builds, or the walk fails in both. -/
theorem toOption_draftAll {setup : Setup} (h : Common setup.document) {steps : List Step}
    (hsteps : ∀ op, .visit op ∈ steps → CommonOperation op) :
    (draftAll .openApi3 (translated setup) (steps.map step)).outcome.toOption =
      (draftAll .swagger2 setup steps).outcome.toOption := by
  induction steps with
  | nil =>
      rfl
  | cons s rest ih =>
      have ih := ih fun op hop => hsteps op (List.mem_cons_of_mem _ hop)
      cases s with
      | visit op =>
          have hmethod := toOption_method h (hsteps op (List.mem_cons_self ..))
          simp only [List.map_cons, step, draftAll, method, Traced.outcome_bind, toOption_bind, hmethod,
            ih]
      | skip line =>
          simp only [List.map_cons, step, draftAll, Traced.outcome_bind, toOption_bind, ih]
      | broken e =>
          rfl

/-! ## Documents -/

/-- The definitions of a document are found where they are moved to. -/
theorem definitions_document (h : Common d) :
    OpenApi3.definitions (document d) = Swagger2.definitions d := by
  rw [OpenApi3.definitions, components_document h, (components_lookup (d := d)).2.2,
    Swagger2.definitions]

/-- The description of a document is kept. -/
theorem description_document : description .openApi3 (document d) = description .swagger2 d := by
  have hinfo : (document d).member? "info" = d.member? "info" :=
    member?_document_same (fun _ => rfl) (by decide) (by decide)
  simp only [description, Entries.member, hinfo]

/-- Neither document says where the service is. -/
theorem domain_of_common (h : Common d) :
    domain .swagger2 d = .ok "" ∧ domain .openApi3 (document d) = .ok "" := by
  have hservers : (document d).member? "servers" = none :=
    (member?_document_same (fun _ => rfl) (by decide) (by decide)).trans (h.absent _ (by decide))
  have hschemes := h.absent "schemes" (by decide)
  constructor
  · simp only [domain, Swagger2.domain, Entries.member, hschemes]
    rfl
  · simp only [domain, OpenApi3.domain, Entries.member, hservers]
    rfl

/-- The walk of a translated document is a translated walk. -/
theorem steps_document : steps .openApi3 (document d) = (steps .swagger2 d).map step := by
  have hpaths : (document d).member? "paths" = (d.member? "paths").map paths :=
    member?_document_kept (fun _ => rfl) (by decide) (by decide)
  simp only [steps, Entries.member, hpaths, ← walkPaths_paths]
  cases d.member? "paths" with
  | none =>
      rfl
  | some v =>
      rfl

/-- The translated document is a 3.x document. -/
theorem detect_document : Grammar.detect (.map (document d)) = .ok .openApi3 := by
  have hswagger : (document d).member? "swagger" = none :=
    member?_document_dropped (fun _ => rfl) (by decide) (by decide)
  have hopenapi : (document d).member? "openapi" = some (.str "3.0.0") :=
    Entries.member?_cons_self ..
  simp only [Grammar.detect, Grammar.detectIn, hswagger, hopenapi]
  rfl

/-! ## Views -/

/-- The view of a translated document is the view of the document but for the grammar. -/
theorem toOption_view (h : Common d) (options : Options) (target : Target) :
    (view .openApi3 (.map (document d)) options target).outcome.toOption =
      (view .swagger2 (.map d) options target).outcome.toOption.map fun v =>
        { v with grammar := .openApi3 } := by
  -- The drafts agree by the walk, and everything else is read off tables that have only moved.
  have hdrafts : (draftAll .openApi3 ⟨document d, options, target.isServerSide⟩
      (steps .openApi3 (document d))).outcome.toOption =
        (draftAll .swagger2 ⟨d, options, target.isServerSide⟩ (steps .swagger2 d)).outcome.toOption := by
    rw [steps_document]
    have hall : Common (Setup.document ⟨d, options, target.isServerSide⟩) := h
    exact toOption_draftAll hall fun op hop => h.operations op (mem_ofPaths_of_visit hop)
  rcases domain_of_common h with ⟨hdomain, hdomain'⟩
  have hschemes : securityTable .openApi3 (document d) = securityTable .swagger2 d :=
    securityTable_document h
  have hdefinitions : definitionsTable .openApi3 (document d) = definitionsTable .swagger2 d :=
    definitions_document h
  simp only [view, Value.table, Traced.outcome_bind, Traced.outcome_lift, ok_bind, toOption_bind,
    hdrafts, hdomain, hdomain', hschemes, hdefinitions, description_document, Option.map_bind,
    Function.comp_def]
  refine congrArg _ (funext fun drafts => congrArg _ (funext fun schemes => ?_))
  refine congrArg _ (funext fun definitions => ?_)
  rw [toOption_accept_map]

/-- A 2.0 document that both grammars can say and its translation have the same view, apart from the
grammar, or neither of them has a view. -/
theorem views_agree (h : Common d) (options : Options) (target : Target) :
    (∃ v, (view .swagger2 (.map d) options target).outcome = .ok v ∧
        (view .openApi3 (.map (document d)) options target).outcome =
          .ok { v with grammar := .openApi3 }) ∨
      ∃ e e', (view .swagger2 (.map d) options target).outcome = .error e ∧
        (view .openApi3 (.map (document d)) options target).outcome = .error e' := by
  -- As far as results go the views are known to agree, so both runs succeed or both fail.
  have hviews := toOption_view h options target
  cases hold : (view .swagger2 (.map d) options target).outcome with
  | error e =>
      right
      cases hnew : (view .openApi3 (.map (document d)) options target).outcome with
      | error e' =>
          exact ⟨e, e', rfl, rfl⟩
      | ok w =>
          rw [hold, hnew] at hviews
          cases hviews
  | ok v =>
      left
      cases hnew : (view .openApi3 (.map (document d)) options target).outcome with
      | error e' =>
          rw [hold, hnew] at hviews
          cases hviews
      | ok w =>
          rw [hold, hnew] at hviews
          cases hviews
          exact ⟨v, rfl, rfl⟩

/-! ## A document with a chain of references -/

/-- A reference into the table of parameters. -/
def sharedParameter (written : String) : Value :=
  .object [("$ref", .str ("#/parameters/" ++ written))]

theorem movable_sharedParameter (written : String) : Movable (sharedParameter written) := by
  intro p hp
  cases hp
  exact ⟨written, rfl⟩

/-- The responses of the operation that has any. -/
def chainedResponses : Entries :=
  [(.int 200, .object [("description", .str "the pets"),
      ("schema", .object [("$ref", .str "#/definitions/Pet")])]),
    (.str "404", .object [("description", .str "no pets")])]

/-- A document whose operations share a parameter through a chain of references. -/
def chainedDocument : Entries :=
  [(.str "swagger", .str "2.0"),
    (.str "security", .list [.object [("key", .list [])]]),
    (.str "securityDefinitions", .object [("key", .object [("type", .str "apiKey")])]),
    (.str "parameters", .object
      [("limit", sharedParameter "size"),
        ("size", .object [("name", .str "limit"), ("in", .str "query"), ("type", .str "integer")])]),
    (.str "definitions", .object [("Pet", .object [("type", .str "object")])]),
    (.str "paths", .object
      [("/pets", .object
        [("parameters", .list [sharedParameter "limit"]),
          ("get", .object
            [("produces", .list [.str "application/json", .str "text/csv"]),
              ("responses", .map chainedResponses)]),
          ("head", .object [])])])]

theorem common_chainedDocument : Common chainedDocument := by
  refine ⟨by decide, ?_, ?_⟩
  · intro table htable entry hentry
    cases htable
    rcases List.mem_cons.1 hentry with rfl | hentry
    · exact movable_sharedParameter "size"
    · rcases List.mem_singleton.1 hentry with rfl
      intro p hp
      cases hp
  · intro op hop
    have hretained : retained .swagger2 chainedDocument =
        [⟨.str "/pets", .get,
            [(.str "produces", .list [.str "application/json", .str "text/csv"]),
              (.str "responses", .map chainedResponses)], [sharedParameter "limit"]⟩,
          ⟨.str "/pets", .head, [], [sharedParameter "limit"]⟩] := by
      decide +kernel
    have hshared : ∀ node ∈ [] ++ [sharedParameter "limit"], Movable node := by
      intro node hnode
      rcases List.mem_singleton.1 hnode with rfl
      exact movable_sharedParameter "limit"
    rw [hretained] at hop
    rcases List.mem_cons.1 hop with rfl | hop
    · refine ⟨rfl, rfl, hshared, Or.inr ⟨["application/json", "text/csv"], chainedResponses, ?_⟩⟩
      refine ⟨rfl, by decide, by decide, rfl, ?_, (.int 200, _), List.mem_cons_self ..,
        by decide +kernel⟩
      intro entry hentry
      rcases List.mem_cons.1 hentry with rfl | hentry
      · exact ⟨_, rfl, rfl⟩
      · rcases List.mem_singleton.1 hentry with rfl
        exact ⟨_, rfl, rfl⟩
    · rcases List.mem_singleton.1 hop with rfl
      exact ⟨rfl, rfl, hshared, Or.inl ⟨rfl, rfl⟩⟩

/-- Both builds show the shared parameter and the two content types. -/
theorem chainedDocument_views_agree :
    Common chainedDocument ∧
      ∃ v, (view .swagger2 (.map chainedDocument) {} .custom).outcome = .ok v ∧
        (view .openApi3 (.map (document chainedDocument)) {} .custom).outcome =
          .ok { v with grammar := .openApi3 } ∧
        v.methods.map (fun m => (m.name, m.parameters.map (·.name), m.headers.map (·.value))) =
          [("getPets", ["limit"], ["'application/json, text/csv'"]), ("headPets", ["limit"], [])] := by
  have hrun : (view .swagger2 (.map chainedDocument) {} .custom).outcome.toOption.map
      (fun v => v.methods.map fun m =>
        (m.name, m.parameters.map (·.name), m.headers.map (·.value))) =
        some [("getPets", ["limit"], ["'application/json, text/csv'"]), ("headPets", ["limit"], [])] := by
    decide +kernel
  rcases exists_ok_of_toOption_map hrun with ⟨v, hv, hmethods⟩
  refine ⟨common_chainedDocument, ?_⟩
  rcases views_agree common_chainedDocument {} .custom with ⟨w, hold, hnew⟩ | ⟨e, _, hold, _⟩
  · rw [hv] at hold
    cases hold
    exact ⟨v, hv, hnew, hmethods⟩
  · rw [hv] at hold
    cases hold

end Translation
end ApiView
