import ApiView.Proofs.Build.Pruned
import ApiView.Proofs.Build.Shapes
import ApiView.Proofs.Reference.Chains

/-!
# Broken — references that lead nowhere

A shared node may be referred to wherever an operation needs one, and the build follows references at
three places of each operation.  It never goes on with an empty node in their stead:

* `resolves_of_method`, `resolves_of_view`: what a finished build has referred to was found;
* `UpToReferences`: runs with the same result, of which one may fail for a reference instead;
* `method_pruned`, `draftAll_pruned`, `view_pruned`: a document and the same without broken references;
* `broken_references_abort`: a broken reference ends the build, and as such.
-/

namespace ApiView
namespace Build

variable {grammar : Grammar} {setup : Setup} {op : Operation} {m : Method} {draft : Draft}
  {d : Entries} {options : Options} {target : Target}

/-! ## What is found -/

/-- A node resolves if following its references ends in a node. -/
theorem resolves_iff {kind : Reference.Kind} {raw : Value} :
    resolves d kind raw = true ↔ ∃ node, Reference.deref (.map d) kind raw = .ok node := by
  unfold resolves
  cases Reference.deref (.map d) kind raw with
  | error e =>
      simp [Except.isOk, Except.toBool]
  | ok node =>
      simp [Except.isOk, Except.toBool]

/-- A node whose references lead nowhere fails for one of them. -/
theorem isReference_of_not_resolves {kind : Reference.Kind} {raw : Value} :
    ¬ resolves d kind raw = true →
      ∃ e, Reference.deref (.map d) kind raw = .error e ∧ e.IsReference := by
  intro h
  cases hderef : Reference.deref (.map d) kind raw with
  | error e =>
      exact ⟨e, rfl, Reference.isReference_of_deref hderef⟩
  | ok node =>
      exact absurd (resolves_iff.2 ⟨node, hderef⟩) h

theorem succeeds_iff {status : Scalar} : succeeds status = true ↔ isSuccess status = .ok true := by
  unfold succeeds
  cases isSuccess status with
  | error e =>
      simp [Except.toOption]
  | ok success =>
      simp [Except.toOption]

/-- Parameters are classified only if every one of them resolves. -/
theorem resolves_of_classifyAll {locationField : String} {nodes : List Value}
    {parameters : List Parameter} :
    (classifyAll setup locationField nodes).outcome = .ok parameters →
      ∀ raw ∈ nodes, resolves setup.document .parameter raw = true := by
  intro h raw hraw
  obtain ⟨rows, hrows, _⟩ := classifyAll_eq_ok_iff.1 h
  obtain ⟨p?, _, hp⟩ := exists_match hrows hraw
  obtain ⟨node, hnode, _⟩ := bind_eq_ok_iff.1 hp
  exact resolves_iff.2 ⟨node, hnode⟩

/-- Responses are read only if every successful one resolves. -/
theorem resolves_of_successRows {shapes : Scalar → Value → Except Failure (List Response)}
    {table : Entries} {responses : List Response} :
    successRows setup shapes table = .ok responses →
      ∀ entry ∈ table, succeeds entry.1 = true → resolves setup.document .response entry.2 = true := by
  intro h entry hentry hsuccess
  simp only [successRows, bind_eq_ok_iff, mapM_eq_ok_iff] at h
  obtain ⟨rows, hrows, _⟩ := h
  obtain ⟨row, _, hrow⟩ := exists_match hrows hentry
  simp only [successRow, succeeds_iff.1 hsuccess, ok_bind, if_true, bind_eq_ok_iff] at hrow
  obtain ⟨node, hnode, _⟩ := hrow
  exact resolves_iff.2 ⟨node, hnode⟩

/-- The nodes of the successful responses are those under a status of success. -/
theorem mem_successNodes_iff {raw : Value} (hgrammar : grammar ≠ .legacy) (node : Entries) :
    raw ∈ successNodes grammar node ↔
      ∃ table, node.member "responses" = .map table ∧
        ∃ entry ∈ table, succeeds entry.1 = true ∧ entry.2 = raw := by
  have hmem : raw ∈ (((node.member "responses").entries?.getD []).filter
      fun entry => succeeds entry.1).map (·.2) ↔
        ∃ table, node.member "responses" = .map table ∧
          ∃ entry ∈ table, succeeds entry.1 = true ∧ entry.2 = raw := by
    cases node.member "responses" with
    | map table =>
        simp [Value.entries?, and_assoc]
    | _ =>
        simp [Value.entries?]
  cases grammar with
  | legacy =>
      exact absurd rfl hgrammar
  | swagger2 =>
      exact hmem
  | openApi3 =>
      exact hmem

/-- An outline is read off with the body of the request and the responses of success. -/
theorem resolves_of_outline :
    outline grammar setup op = .ok draft →
      (∀ raw ∈ bodyNodes grammar op.node, resolves setup.document .requestBody raw = true) ∧
        ∀ raw ∈ successNodes grammar op.node, resolves setup.document .response raw = true := by
  intro h
  cases grammar with
  | legacy =>
      -- Legacy operations have neither a body nor responses.
      exact ⟨List.forall_mem_nil _, List.forall_mem_nil _⟩
  | swagger2 =>
      simp only [outline, bind_eq_ok_iff] at h
      obtain ⟨_, _, _, _, _, _, responses, hresponses, _⟩ := h
      refine ⟨List.forall_mem_nil _, fun raw hraw => ?_⟩
      obtain ⟨table, htable, entry, hentry, hsuccess, rfl⟩ := (mem_successNodes_iff (by decide) _).1 hraw
      simp only [Swagger2.responses, htable, bind_eq_ok_iff, Swagger2.responseMembers_eq] at hresponses
      obtain ⟨types, _, hrows⟩ := hresponses
      exact resolves_of_successRows hrows entry hentry hsuccess
  | openApi3 =>
      simp only [outline, bind_eq_ok_iff] at h
      obtain ⟨_, _, _, _, responses, hresponses, body, hbody, _⟩ := h
      constructor
      · intro raw hraw
        have hmember : op.node.member "requestBody" = raw := by
          rw [Entries.member, Option.mem_toList.1 hraw]
          rfl
        simp only [OpenApi3.body, Traced.outcome_bind, Traced.outcome_lift, hmember,
          bind_eq_ok_iff] at hbody
        obtain ⟨node, hnode, _⟩ := hbody
        exact resolves_iff.2 ⟨node, hnode⟩
      · intro raw hraw
        obtain ⟨table, htable, entry, hentry, hsuccess, rfl⟩ :=
          (mem_successNodes_iff (by decide) _).1 hraw
        simp only [OpenApi3.responses, htable, OpenApi3.responseMembers_eq] at hresponses
        exact resolves_of_successRows hresponses entry hentry hsuccess

/-- A method is built of nodes that were all found. -/
theorem resolves_of_method :
    (method grammar setup op).outcome = .ok m →
      ∀ use ∈ references grammar op, resolves setup.document use.1 use.2 = true := by
  intro h
  obtain ⟨declared, draft, hdeclared, hdraft, _⟩ := method_eq_ok_iff.1 h
  obtain ⟨hbody, hsuccess⟩ := resolves_of_outline hdraft
  have hparameters := resolves_of_classifyAll hdeclared
  simp only [references, List.forall_mem_append, List.forall_mem_map]
  exact ⟨⟨hparameters, hbody⟩, hsuccess⟩

/-- A view is built only if every reference in use resolves. -/
theorem resolves_of_view {v : View} :
    (view grammar (.map d) options target).outcome = .ok v →
      ∀ op ∈ retained grammar d, ∀ use ∈ references grammar op, resolves d use.1 use.2 = true := by
  intro h op hop
  obtain ⟨_, drafts, hentries, hviewed⟩ := viewed_of_view h
  cases hentries
  obtain ⟨m, _, hm⟩ := exists_match hviewed.drafts_forall₂ hop
  exact resolves_of_method hm

/-! ## Runs up to references -/

/-- One run has whatever result the other one has, unless it fails for a reference. -/
def UpToReferences {α : Type} (x y : Except Failure α) : Prop :=
  ∀ a, y = .ok a → x = .ok a ∨ ∃ e, x = .error e ∧ e.IsReference

namespace UpToReferences

variable {α β : Type} {x y : Except Failure α} {f g : α → Except Failure β}

theorem refl (x : Except Failure α) : UpToReferences x x :=
  fun _ => Or.inl

theorem of_error {e : Failure} (hx : x = .error e) (he : e.IsReference) : UpToReferences x y :=
  fun _ _ => Or.inr ⟨e, hx, he⟩

/-- Agreement up to references is kept by further steps that agree. -/
theorem bind (h : UpToReferences x y) (hf : ∀ a, UpToReferences (f a) (g a)) :
    UpToReferences (x >>= f) (y >>= g) := by
  intro b hb
  obtain ⟨a, hy, hg⟩ := bind_eq_ok_iff.1 hb
  obtain hx | ⟨e, hx, he⟩ := h a hy
  · rw [hx]
    exact hf a b hg
  · rw [hx]
    exact Or.inr ⟨e, rfl, he⟩

/-- Steps that fail for a reference may be left out of a row. -/
theorem mapM_filter {keep : α → Bool} {xs : List α}
    (hdropped : ∀ a, ¬ keep a = true → ∃ e, f a = .error e ∧ e.IsReference) :
    UpToReferences (xs.mapM f) ((xs.filter keep).mapM f) := by
  induction xs with
  | nil =>
      exact refl _
  | cons a rest ih =>
      by_cases hkeep : keep a = true
      · rw [List.filter_cons_of_pos hkeep, List.mapM_cons, List.mapM_cons]
        exact (refl (f a)).bind fun b => ih.bind fun bs => refl _
      · -- The row ends at the first step that is left out of the other one.
        obtain ⟨e, he, hreference⟩ := hdropped a hkeep
        rw [List.mapM_cons, he]
        exact of_error rfl hreference

end UpToReferences

/-! ## Pruned operations -/

section Pruned

open UpToReferences (refl of_error mapM_filter)

/-- Parameters that do not resolve may be left out before they are classified. -/
theorem classifyAll_pruned (setup : Setup) (locationField : String) (nodes : List Value) :
    UpToReferences (classifyAll setup locationField nodes).outcome
      (classifyAll setup locationField
        (nodes.filter (resolves setup.document .parameter))).outcome := by
  rw [outcome_classifyAll, outcome_classifyAll]
  refine UpToReferences.bind (mapM_filter fun raw hraw => ?_) fun rows => refl _
  -- A parameter is not classified before its node is found.
  obtain ⟨e, he, hreference⟩ := isReference_of_not_resolves hraw
  refine ⟨e, ?_, hreference⟩
  have hderef : setup.deref .parameter raw = .error e := he
  rw [classifyRaw, hderef]
  rfl

/-- Responses that do not resolve may be left out before they are read. -/
theorem successRows_pruned (shapes : Scalar → Value → Except Failure (List Response))
    (table : Entries) :
    UpToReferences (successRows setup shapes table)
      (successRows setup shapes (table.filter (keepsResponse setup.document))) := by
  refine UpToReferences.bind (mapM_filter fun entry hentry => ?_) fun rows => refl _
  -- Only members under a status of success are left out, and their references are followed.
  simp only [keepsResponse, Bool.or_eq_true, Bool.not_eq_true', not_or, Bool.not_eq_false] at hentry
  obtain ⟨hsuccess, hbroken⟩ := hentry
  obtain ⟨e, he, hreference⟩ := isReference_of_not_resolves hbroken
  refine ⟨e, ?_, hreference⟩
  have hderef : setup.deref .response entry.2 = .error e := he
  simp only [successRow, succeeds_iff.1 hsuccess, ok_bind, if_true, hderef]
  rfl

/-- What an operation says apart from the places where it refers to shared nodes. -/
theorem member?_pruning {name : String}
    (hname : name ∉ ["parameters", "requestBody", "responses"]) :
    ((pruning grammar d).operation op).node.member? name = op.node.member? name := by
  simp only [List.mem_cons, List.not_mem_nil, or_false, not_or] at hname
  obtain ⟨hparameters, hbody, hresponses⟩ := hname
  exact member?_prunedNode hparameters hbody hresponses

theorem member_pruning {name : String}
    (hname : name ∉ ["parameters", "requestBody", "responses"]) :
    ((pruning grammar d).operation op).node.member name = op.node.member name :=
  congrArg (·.getD .null) (member?_pruning hname)

theorem assemble_pruned (draft : Draft) :
    assemble options ((pruning grammar d).operation op) draft = assemble options op draft := by
  have hothers : ∀ name ∈ ["tags", "externalDocs", "description", "summary"],
      name ∉ ["parameters", "requestBody", "responses"] := by
    decide
  have hmember : ∀ name ∈ ["tags", "externalDocs", "description", "summary"],
      ((pruning grammar d).operation op).node.member name = op.node.member name :=
    fun name hname => member_pruning (hothers name hname)
  refine assemble_congr ?_ ?_ hmember options draft
  · rfl
  · rfl

theorem Swagger2.responses_pruned (produces : Value) :
    UpToReferences (Swagger2.responses setup op produces)
      (Swagger2.responses setup ((pruning .swagger2 setup.document).operation op) produces) := by
  have hmember : ((pruning .swagger2 setup.document).operation op).node.member "responses" =
      keptResponses setup.document (op.node.member "responses") :=
    member_responses_prunedNode (by decide)
  rw [Swagger2.responses, Swagger2.responses, hmember]
  cases op.node.member "responses" with
  | map table =>
      simp only [keptResponses, Swagger2.responseMembers_eq]
      exact (refl _).bind fun types => successRows_pruned _ table
  | _ =>
      exact refl _

theorem OpenApi3.responses_pruned :
    UpToReferences (OpenApi3.responses setup op)
      (OpenApi3.responses setup ((pruning .openApi3 setup.document).operation op)) := by
  have hmember : ((pruning .openApi3 setup.document).operation op).node.member "responses" =
      keptResponses setup.document (op.node.member "responses") :=
    member_responses_prunedNode (by decide)
  rw [OpenApi3.responses, OpenApi3.responses, hmember]
  cases op.node.member "responses" with
  | map table =>
      simp only [keptResponses, OpenApi3.responseMembers_eq]
      exact successRows_pruned _ table
  | _ =>
      exact refl _

theorem OpenApi3.body_pruned :
    UpToReferences (OpenApi3.body setup op).outcome
      (OpenApi3.body setup ((pruning .openApi3 setup.document).operation op)).outcome := by
  by_cases hkept : keepsBody .openApi3 setup.document op.node = true
  · have hbody : ((pruning .openApi3 setup.document).operation op).node.member "requestBody" =
        op.node.member "requestBody" :=
      congrArg (·.getD .null) (member?_requestBody_of_keepsBody hkept)
    have hname : ((pruning .openApi3 setup.document).operation op).node.member Body.nameExtension =
        op.node.member Body.nameExtension :=
      member_pruning (by decide)
    have hsame : OpenApi3.body setup ((pruning .openApi3 setup.document).operation op) =
        OpenApi3.body setup op := by
      simp only [OpenApi3.body, hbody, Body.parameter, Body.nameValue, hname]
      rfl
    rw [hsame]
    exact refl _
  · -- The body that is dropped is the one that the run asks for first.
    have hbroken : ∃ raw ∈ bodyNodes .openApi3 op.node,
        ¬ resolves setup.document .requestBody raw = true := by
      simpa [keepsBody] using hkept
    obtain ⟨raw, hraw, hbroken⟩ := hbroken
    obtain ⟨e, he, hreference⟩ := isReference_of_not_resolves hbroken
    have hmember : op.node.member "requestBody" = raw :=
      congrArg (·.getD .null) (Option.mem_toList.1 hraw)
    have hderef : setup.deref .requestBody raw = .error e := he
    refine of_error (e := e) ?_ hreference
    simp only [OpenApi3.body, Traced.outcome_bind, Traced.outcome_lift, hmember, hderef]
    rfl

/-- A method is the one of the pruned operation, unless it fails for a reference. -/
theorem method_pruned :
    UpToReferences (method grammar setup op).outcome
      (method grammar setup ((pruning grammar setup.document).operation op)).outcome := by
  have hclassify := classifyAll_pruned setup (locationField grammar) (parameterNodes grammar op)
  rw [← parameterNodes_pruned] at hclassify
  -- What is not checked for references is read off the same members.
  have hmember : ∀ name ∉ ["parameters", "requestBody", "responses"],
      ((pruning grammar setup.document).operation op).node.member name = op.node.member name :=
    fun name => member_pruning
  have hmentions : ((pruning grammar setup.document).operation op).node.hasMember "security" =
      op.node.hasMember "security" :=
    congrArg Option.isSome (member?_pruning (by decide))
  cases grammar with
  | legacy =>
      simp only [method, Legacy.method, Legacy.headers, Traced.outcome_bind, Traced.outcome_lift,
        assemble_pruned, hmember "authorizations" (by decide), hmember "produces" (by decide),
        hmember "nickname" (by decide), hmember "summary" (by decide), hmember "notes" (by decide)]
      refine (refl _).bind fun credentials => (refl _).bind fun headers => ?_
      refine (refl _).bind fun name => hclassify.bind fun parameters => refl _
  | swagger2 =>
      simp only [method, Swagger2.method, Traced.outcome_bind, Traced.outcome_lift, assemble_pruned,
        hmentions, hmember "security" (by decide), hmember "operationId" (by decide),
        hmember "produces" (by decide), hmember "consumes" (by decide)]
      refine (refl _).bind fun credentials => (refl _).bind fun name => ?_
      refine (refl _).bind fun headers => hclassify.bind fun parameters => ?_
      exact (Swagger2.responses_pruned _).bind fun responses => refl _
  | openApi3 =>
      simp only [method, OpenApi3.method, Traced.outcome_bind, Traced.outcome_lift, assemble_pruned,
        hmentions, hmember "security" (by decide), hmember "operationId" (by decide)]
      refine (refl _).bind fun credentials => (refl _).bind fun name => ?_
      refine hclassify.bind fun parameters => OpenApi3.responses_pruned.bind fun responses => ?_
      exact OpenApi3.body_pruned.bind fun body => refl _

end Pruned

/-! ## Pruned documents -/

/-- The drafts of a walk are those of the pruned document, unless the walk fails for a reference. -/
theorem draftAll_pruned (serverSide : Bool) (steps : List Step) :
    UpToReferences (draftAll grammar ⟨d, options, serverSide⟩ steps).outcome
      (draftAll grammar ⟨pruned grammar d, options, serverSide⟩
        (steps.map (pruning grammar d).step)).outcome := by
  induction steps with
  | nil =>
      exact .refl _
  | cons step rest ih =>
      cases step with
      | visit op =>
          have hmethod : UpToReferences (method grammar ⟨d, options, serverSide⟩ op).outcome
              (method grammar ⟨pruned grammar d, options, serverSide⟩
                ((pruning grammar d).operation op)).outcome := by
            rw [← method_congr (alike_pruned grammar d)]
            exact method_pruned
          simp only [List.map_cons, Change.step, draftAll, Traced.outcome_bind]
          exact hmethod.bind fun m => ih.bind fun drafts => .refl _
      | skip line =>
          simpa only [List.map_cons, Change.step, draftAll, Traced.outcome_bind, Traced.outcome_note,
            ok_bind] using ih
      | broken e =>
          exact .refl _

/-- Up to broken references, a pruned document has the view of the document. -/
theorem view_pruned :
    UpToReferences (view grammar (.map d) options target).outcome
      (view grammar (.map (pruned grammar d)) options target).outcome := by
  rw [outcome_view, outcome_view, steps_pruned, ← frame_congr (alike_pruned grammar d)]
  exact (draftAll_pruned target.isServerSide (steps grammar d)).bind fun drafts => .refl _

/-- A broken reference always ends the build, and never stands for an empty node.  Where a document has
a view, every node that an operation refers to was found; and where it would have one but for some
broken references, it fails for one of these. -/
theorem broken_references_abort (grammar : Grammar) (d : Entries) (options : Options)
    (target : Target) :
    (∀ v, (view grammar (.map d) options target).outcome = .ok v →
      ∀ op ∈ retained grammar d, ∀ use ∈ references grammar op, ∃ node,
        Reference.deref (.map d) use.1 use.2 = .ok node ∧ Reference.pointer? node = none) ∧
      (retained grammar (pruned grammar d)).map (references grammar) =
        (retained grammar d).map (fun op =>
          (references grammar op).filter fun use => resolves d use.1 use.2) ∧
      ∀ w, (view grammar (.map (pruned grammar d)) options target).outcome = .ok w →
        (∃ op ∈ retained grammar d, ∃ use ∈ references grammar op, ∃ e,
          Reference.deref (.map d) use.1 use.2 = .error e) →
        ∃ pointer fault,
          (view grammar (.map d) options target).outcome = .error (.reference pointer fault) := by
  refine ⟨?_, references_pruned grammar d, ?_⟩
  · intro v hv op hop use huse
    obtain ⟨node, hnode⟩ := resolves_iff.1 (resolves_of_view hv op hop use huse)
    exact ⟨node, hnode, Reference.pointer?_of_deref hnode⟩
  · rintro w hw ⟨op, hop, use, huse, e, hbroken⟩
    obtain hsame | ⟨e', herror, pointer, fault, rfl⟩ := view_pruned w hw
    · -- A view of the whole document would have found the broken reference.
      obtain ⟨node, hnode⟩ := resolves_iff.1 (resolves_of_view hsame op hop use huse)
      rw [hbroken] at hnode
      cases hnode
    · exact ⟨pointer, fault, herror⟩

/-- A reference into one of the tables of components. -/
def componentReference (table name : String) : Value :=
  .object [("$ref", .str ("#/components/" ++ table ++ "/" ++ name))]

/-- An operation with a parameter that goes round in a circle, a body that is not there, and responses
that are not there either. -/
def tangledDocument : Entries :=
  [(.str "components", .object
      [("parameters", .object
        [("first", componentReference "parameters" "second"),
          ("second", componentReference "parameters" "first"),
          ("limit", .object [("name", .str "limit"), ("in", .str "query")])])]),
    (.str "paths", .object
      [("/pets", .object
        [("parameters", .list
            [componentReference "parameters" "first", componentReference "parameters" "limit"]),
          ("post", .object
            [("requestBody", componentReference "requestBodies" "pet"),
              ("responses", .object
                [("200", componentReference "responses" "pet"),
                  ("404", componentReference "responses" "none")])])])])]

/-- Without its broken references the document has a view, and with them it has none; the response that
is not one of success does no harm. -/
theorem tangledDocument_broken_references_abort :
    ∃ w, (view .openApi3 (.map (pruned .openApi3 tangledDocument)) {} .custom).outcome = .ok w ∧
      w.methods.map (fun m => m.parameters.map (·.name)) = [["limit"]] ∧
      (∀ op ∈ retained .openApi3 (pruned .openApi3 tangledDocument),
        ∀ use ∈ references .openApi3 op, ∃ node,
          Reference.deref (.map (pruned .openApi3 tangledDocument)) use.1 use.2 = .ok node ∧
            Reference.pointer? node = none) ∧
      ∃ pointer fault, (view .openApi3 (.map tangledDocument) {} .custom).outcome =
        .error (.reference pointer fault) := by
  have hrun : (view .openApi3 (.map (pruned .openApi3 tangledDocument)) {} .custom).outcome.toOption.map
      (fun w => w.methods.map fun m => m.parameters.map (·.name)) = some [["limit"]] := by
    decide +kernel
  have hany : ((retained .openApi3 tangledDocument).any fun op =>
      (references .openApi3 op).any fun use => !resolves tangledDocument use.1 use.2) = true := by
    decide +kernel
  obtain ⟨w, hw, hnames⟩ := exists_ok_of_toOption_map hrun
  obtain ⟨op, hop, hany⟩ := List.any_eq_true.1 hany
  obtain ⟨use, huse, hbroken⟩ := List.any_eq_true.1 hany
  have hlost : ¬ resolves tangledDocument use.1 use.2 = true := by
    simpa using hbroken
  obtain ⟨e, he, _⟩ := isReference_of_not_resolves hlost
  have hfound := (broken_references_abort .openApi3 (pruned .openApi3 tangledDocument) {} .custom).1 w hw
  have habort := (broken_references_abort .openApi3 tangledDocument {} .custom).2.2 w hw
  exact ⟨w, hw, hnames, hfound, habort ⟨op, hop, use, huse, e, he⟩⟩

end Build
end ApiView
