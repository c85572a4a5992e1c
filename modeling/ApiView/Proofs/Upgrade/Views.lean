import ApiView.Proofs.Upgrade.Walks

/-!
# Views — the same view from a legacy document

A legacy document that both grammars can say has the same view as its translation, apart from the grammar
itself, or neither of them has a view:

* `toOption_draftAll`: the same methods are drafted on both walks;
* `toOption_view`: the same view is put together;
* `detect_document`: the translated document is a 2.0 document;
* `legacy_views_agree`: the two builds agree.
-/

namespace ApiView
namespace Upgrade

open Build

variable {d : Entries}

/-! ## Drafts -/

/-- The methods of the two walks are the same, or both walks fail. -/
theorem toOption_draftAll (setup : Setup) (h : Common setup.document) :
    (draftAll .swagger2 (upgraded setup) (steps .swagger2 (document setup.document))).outcome.toOption =
      (draftAll .legacy setup (steps .legacy setup.document)).outcome.toOption := by
  rw [steps_document h, steps_of_common h, outcome_draftAll_visit, outcome_draftAll_visit]
  -- Neither walk skips anything or breaks off, so the rows are compared operation by operation.
  refine toOption_mapM_map fun op hop => ?_
  obtain ⟨hcommon, hshared⟩ := common_of_retained h hop
  simp only [method, toOption_method setup hcommon hshared]

/-! ## Documents -/

/-- A document has no members but those that both grammars can say. -/
theorem Common.member_eq_null (h : Common d) {name : String} (hname : name ∉ documentNames) :
    d.member name = .null :=
  Entries.member_of_member?_eq_none (Entries.member?_of_names h.names hname)

/-- Neither document says what the service is. -/
theorem description_of_common (h : Common d) :
    description .legacy d = .null ∧ description .swagger2 (document d) = .null := by
  have hdescription : d.member "description" = .null := h.member_eq_null (by decide)
  have hinfo : d.member "info" = .null := h.member_eq_null (by decide)
  have hinfo' : (document d).member "info" = .null := member_document_of_notMem (by decide) d
  constructor
  · simp only [description, hdescription, hinfo]
    rfl
  · simp only [description, hinfo']
    rfl

/-- Neither document says where the service is. -/
theorem domain_of_common (h : Common d) :
    domain .legacy d = .ok "" ∧ domain .swagger2 (document d) = .ok "" := by
  have hbase : d.member "basePath" = .null := h.member_eq_null (by decide)
  have hschemes : (document d).member "schemes" = .null := member_document_of_notMem (by decide) d
  constructor
  · simp only [domain, Legacy.domain, hbase]
    rfl
  · simp only [domain, Swagger2.domain, hschemes]
    rfl

/-- The models of a document become its definitions. -/
theorem definitions_document (d : Entries) :
    definitionsTable .swagger2 (document d) = definitionsTable .legacy d := by
  simp only [definitionsTable, Swagger2.definitions, Legacy.definitions, member?_definitions]

/-- The translated document is a 2.0 document. -/
theorem detect_document (d : Entries) : Grammar.detect (.map (document d)) = .ok .swagger2 := by
  have hswagger : (document d).member? "swagger" = some (.str "2.0") :=
    Entries.member?_cons_self ..
  simp only [Grammar.detect, Grammar.detectIn, hswagger]
  rfl

/-! ## Views -/

/-- The view of an upgraded document is the view of the document but for the grammar. -/
theorem toOption_view (h : Common d) (options : Options) (target : Target) :
    (view .swagger2 (.map (document d)) options target).outcome.toOption =
      (view .legacy (.map d) options target).outcome.toOption.map fun v =>
        { v with grammar := .swagger2 } := by
  obtain ⟨hdescription, hdescription'⟩ := description_of_common h
  obtain ⟨hdomain, hdomain'⟩ := domain_of_common h
  have hdrafts := toOption_draftAll ⟨d, options, target.isServerSide⟩ h
  have hschemes : securityTable .swagger2 (document d) = securityTable .legacy d :=
    securityTable_document d
  simp only [upgraded] at hdrafts
  -- Everything but the drafts is read off tables that have only moved, or is missing from both.
  simp only [view, Value.table, Traced.outcome_bind, Traced.outcome_lift, ok_bind, toOption_bind,
    hdrafts, hdescription, hdescription', hdomain, hdomain', hschemes, definitions_document,
    Option.map_bind, Function.comp_def]
  refine congrArg _ (funext fun drafts => congrArg _ (funext fun schemes => ?_))
  refine congrArg _ (funext fun definitions => ?_)
  rw [toOption_accept_map]

/-- A legacy document that both grammars can say and its translation have the same view, apart from the
grammar, or neither of them has a view. -/
theorem legacy_views_agree (h : Common d) (options : Options) (target : Target) :
    (∃ v, (view .legacy (.map d) options target).outcome = .ok v ∧
        (view .swagger2 (.map (document d)) options target).outcome =
          .ok { v with grammar := .swagger2 }) ∨
      ∃ e e', (view .legacy (.map d) options target).outcome = .error e ∧
        (view .swagger2 (.map (document d)) options target).outcome = .error e' :=
  ok_or_error_of_toOption (toOption_view h options target)

/-! ## A document with methods in letters of both cases -/

/-- The operations on all pets: one needs a key, and one needs nothing. -/
def petsOperations : List Entries :=
  [[(.str "method", .str "Get"), (.str "nickname", .str "listPets"), (.str "summary", .str "all pets"),
      (.str "produces", .list [.str "application/json"]),
      (.str "parameters", .list [.object
        [("paramType", .str "query"), ("name", .str "limit"), ("type", .str "integer")]]),
      (.str "authorizations", .object [("key", .list [])])],
    [(.str "method", .str "POST"), (.str "authorizations", .map [])]]

/-- The operation on one pet. -/
def petOperations : List Entries :=
  [[(.str "method", .str "dELETE"), (.str "tags", .list [.str "pet"])]]

/-- The interfaces of pets. -/
def petsApis : List Entries :=
  [[(.str "path", .str "/pets"), (.str "operations", .list (petsOperations.map .map))],
    [(.str "path", .str "/pets/one"), (.str "operations", .list (petOperations.map .map))]]

/-- A document whose methods are written in letters of both cases. -/
def petsDocument : Entries :=
  [(.str "swaggerVersion", .str "1.2"),
    (.str "authorizations", .object [("key", .object [("type", .str "apiKey")])]),
    (.str "models", .object [("Pet", .object [("type", .str "object")])]),
    (.str "apis", .list (petsApis.map .map))]

theorem common_petsOperations : ∀ node ∈ petsOperations, CommonOperation node := by
  intro node hnode
  rcases List.mem_cons.1 hnode with rfl | hnode
  · refine ⟨by decide, ⟨"Get", .get, rfl, by decide, by decide +kernel⟩, ?_, ?_⟩
    · intro v hv
      cases hv
      refine ⟨_, rfl, fun raw hraw => ?_⟩
      rcases List.mem_singleton.1 hraw with rfl
      exact ⟨rfl, rfl, rfl⟩
    · intro v hv
      cases hv
      rfl
  · rcases List.mem_singleton.1 hnode with rfl
    refine ⟨by decide, ⟨"POST", .post, rfl, by decide, by decide +kernel⟩, ?_, ?_⟩
    · intro v hv
      cases hv
    · intro v hv
      cases hv
      rfl

theorem common_petOperations : ∀ node ∈ petOperations, CommonOperation node := by
  intro node hnode
  rcases List.mem_singleton.1 hnode with rfl
  refine ⟨by decide, ⟨"dELETE", .delete, rfl, by decide, by decide +kernel⟩, ?_, ?_⟩
  · intro v hv
    cases hv
  · intro v hv
    cases hv

theorem common_petsDocument : Common petsDocument := by
  refine ⟨by decide, petsApis, rfl, ?_, by decide⟩
  intro api hapi
  rcases List.mem_cons.1 hapi with rfl | hapi
  · exact ⟨petsOperations, ⟨"/pets", rfl⟩, rfl, common_petsOperations, by decide +kernel⟩
  · rcases List.mem_singleton.1 hapi with rfl
    exact ⟨petOperations, ⟨"/pets/one", rfl⟩, rfl, common_petOperations, by decide +kernel⟩

/-- Both builds show the same three methods, of which one needs a key. -/
theorem petsDocument_legacy_views_agree :
    Common petsDocument ∧
      ∃ v, (view .legacy (.map petsDocument) {} .custom).outcome = .ok v ∧
        (view .swagger2 (.map (document petsDocument)) {} .custom).outcome =
          .ok { v with grammar := .swagger2 } ∧
        v.methods.map (fun m => (m.name, m.isSecure, m.credentials.apiKey)) =
          [("listPets", true, true), ("postPets", false, false), ("deletePetsOne", false, false)] := by
  have hrun : (view .legacy (.map petsDocument) {} .custom).outcome.toOption.map
      (fun v => v.methods.map fun m => (m.name, m.isSecure, m.credentials.apiKey)) =
        some [("listPets", true, true), ("postPets", false, false), ("deletePetsOne", false, false)] := by
    decide +kernel
  rcases exists_ok_of_toOption_map hrun with ⟨v, hv, hmethods⟩
  refine ⟨common_petsDocument, ?_⟩
  rcases legacy_views_agree common_petsDocument {} .custom with ⟨w, hold, hnew⟩ | ⟨e, _, hold, _⟩
  · rw [hv] at hold
    cases hold
    exact ⟨v, hv, hnew, hmethods⟩
  · rw [hv] at hold
    cases hold

end Upgrade
end ApiView
