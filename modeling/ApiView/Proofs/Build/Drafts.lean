import ApiView.Proofs.Naming.Distinct
import ApiView.Proofs.Operation.Retained

/-!
# Drafts — what a finished build went through

Each grammar builds its methods in its own way, but they all read the same things off an operation.
This file says once what that is, and takes a finished build apart into the parts of its view:

* `Build.Drafted`: what a draft holds, whatever the grammar;
* `Build.Assembled`: what a method takes over from its operation and its draft;
* `Build.Viewed`: what a view takes over from a document and its drafts;
* `exists_draft_of_method`, `assembled_of_assemble`, `viewed_of_view`: finished steps are of that form;
* `assemble_congr`: operations that have the same method for the same draft;
* `draftAll_of_methods`: a walk whose operations all have methods is finished;
* `Viewed.drafts_forall₂`, `Viewed.methods_forall₂`: operations, drafts and methods, one by one.
-/

namespace ApiView
namespace Build

variable {grammar : Grammar} {setup : Setup} {op : Operation} {m : Method}

/-! ## Parts of an operation -/

/-- The id that an operation declares. -/
def explicitId : Grammar → Entries → Value
  | .legacy, node => node.member "nickname"
  | .swagger2, node | .openApi3, node => node.member "operationId"

/-- The requirements that a document has for operations without their own. -/
def sharedRequirements : Grammar → Entries → Value
  | .legacy, _ => .null
  | .swagger2, document | .openApi3, document => document.member "security"

/-- The requirements that an operation declares. -/
def ownRequirements : Grammar → Entries → Value
  | .legacy, node => Legacy.requirements (node.member "authorizations")
  | .swagger2, node | .openApi3, node => node.member "security"

/-- Whether an operation of a document mentions security. -/
def mentionsSecurity : Grammar → Entries → Entries → Bool
  | .legacy, _, node => (node.member "authorizations").truthy
  | .swagger2, document, node | .openApi3, document, node =>
    document.hasMember "security" || node.hasMember "security"

/-! ## Drafts -/

/-- What a draft holds. -/
structure Drafted (grammar : Grammar) (setup : Setup) (op : Operation) (draft : Draft) : Prop where
  name : baseName op (explicitId grammar op.node) = .ok draft.name
  credentials : Security.requiredCredentials (securityTable grammar setup.document)
    (sharedRequirements grammar setup.document) (ownRequirements grammar op.node) =
      .ok draft.credentials
  isSecure : draft.isSecure = mentionsSecurity grammar setup.document op.node

/-- Every method is assembled out of a draft. -/
theorem exists_draft_of_method :
    (method grammar setup op).outcome = .ok m →
      ∃ draft, Drafted grammar setup op draft ∧ assemble setup.options op draft = .ok m := by
  intro h
  -- Every grammar reads credentials and a name before anything else can fail.
  cases grammar with
  | legacy =>
      simp only [method, Legacy.method, Traced.outcome_bind, Traced.outcome_lift, bind_eq_ok_iff] at h
      rcases h with ⟨credentials, hcredentials, headers, _, name, hname, parameters, _, hm⟩
      refine ⟨_, ?_, hm⟩
      exact ⟨hname, hcredentials, rfl⟩
  | swagger2 =>
      simp only [method, Swagger2.method, Traced.outcome_bind, Traced.outcome_lift,
        bind_eq_ok_iff] at h
      rcases h with ⟨credentials, hcredentials, name, hname, headers, _, parameters, _, responses, _,
        hm⟩
      refine ⟨_, ?_, hm⟩
      exact ⟨hname, hcredentials, rfl⟩
  | openApi3 =>
      simp only [method, OpenApi3.method, Traced.outcome_bind, Traced.outcome_lift,
        bind_eq_ok_iff] at h
      rcases h with ⟨credentials, hcredentials, name, hname, parameters, _, responses, _, body, _, hm⟩
      refine ⟨_, ?_, hm⟩
      exact ⟨hname, hcredentials, rfl⟩

/-! ## Methods -/

/-- What a method takes over from its operation and its draft. -/
structure Assembled (op : Operation) (draft : Draft) (m : Method) : Prop where
  name : m.name = draft.name
  verb : m.verb = op.verb
  path : op.path.Spells m.path
  credentials : m.credentials = draft.credentials
  isSecure : m.isSecure = draft.isSecure

/-- What a method takes over from its draft. -/
theorem assembled_of_assemble {options : Options} {draft : Draft} :
    assemble options op draft = .ok m → Assembled op draft m := by
  intro h
  simp only [assemble, bind_eq_ok_iff, accept_eq_ok_iff] at h
  rcases h with ⟨tags, _, hproblems, rfl⟩
  have hpath : (Value.scalar op.path).textProblems "path" = [] := by
    simp only [methodProblems, List.append_eq_nil_iff] at hproblems
    exact hproblems.1.1.1.1.2
  rcases Value.fieldText?_of_textProblems hpath with ⟨text, htext⟩
  refine ⟨rfl, rfl, ?_, rfl, rfl⟩
  simpa [htext] using Scalar.spells_of_fieldText? htext

/-- Apart from its draft, a method depends on the place of its operation and on four members. -/
theorem assemble_congr {op' : Operation} (hpath : op'.path = op.path) (hverb : op'.verb = op.verb)
    (hmember : ∀ name ∈ ["tags", "externalDocs", "description", "summary"],
      op'.node.member name = op.node.member name) (options : Options) (draft : Draft) :
    assemble options op' draft = assemble options op draft := by
  simp only [assemble, tagsOf, summaryOf, hpath, hverb, hmember "tags" (by decide),
    hmember "externalDocs" (by decide), hmember "description" (by decide),
    hmember "summary" (by decide)]

/-! ## Rows of methods -/

/-- The methods of a finished walk, and the operations that they belong to. -/
theorem exists_operations_of_draftAll {steps : List Step} {drafts : List Method} :
    (draftAll grammar setup steps).outcome = .ok drafts →
      ∃ ops, operationsOf steps = .ok ops ∧
        List.Forall₂ (fun op m => (method grammar setup op).outcome = .ok m) ops drafts := by
  intro h
  induction steps generalizing drafts with
  | nil =>
      cases h
      exact ⟨[], rfl, List.Forall₂.nil⟩
  | cons step rest ih =>
      cases step with
      | visit op =>
          simp only [draftAll, Traced.outcome_bind, Traced.outcome_pure, bind_eq_ok_iff,
            Except.ok.injEq] at h
          rcases h with ⟨m, hm, drafts', hrest, rfl⟩
          rcases ih hrest with ⟨ops, hops, hmethods⟩
          refine ⟨op :: ops, ?_, List.Forall₂.cons hm hmethods⟩
          simp [operationsOf, hops, bind, Except.bind, pure, Except.pure]
      | skip line =>
          simp only [draftAll, Traced.outcome_bind, Traced.outcome_note, bind_eq_ok_iff] at h
          rcases h with ⟨_, _, hrest⟩
          exact ih hrest
      | broken e =>
          cases h

/-- Operations that all have methods are drafted in a walk that finds them. -/
theorem draftAll_of_methods {steps : List Step} {ops : List Operation} {drafts : List Method} :
    operationsOf steps = .ok ops →
      List.Forall₂ (fun op m => (method grammar setup op).outcome = .ok m) ops drafts →
        (draftAll grammar setup steps).outcome = .ok drafts := by
  intro hops hmethods
  induction steps generalizing ops drafts with
  | nil =>
      cases hops
      cases hmethods
      rfl
  | cons step rest ih =>
      cases step with
      | visit op =>
          simp only [operationsOf, bind_eq_ok_iff, pure_eq_ok_iff] at hops
          obtain ⟨ops', hops', rfl⟩ := hops
          obtain ⟨m, drafts', hm, hrest, rfl⟩ := List.forall₂_cons_left_iff.1 hmethods
          simp only [draftAll, Traced.outcome_bind, hm, ih hops' hrest, ok_bind, Traced.outcome_pure]
      | skip line =>
          simp only [draftAll, Traced.outcome_bind, Traced.outcome_note, ok_bind]
          exact ih hops hmethods
      | broken e =>
          cases hops

/-- Operations that are visited one by one are drafted one by one. -/
theorem outcome_draftAll_visit (ops : List Operation) :
    (draftAll grammar setup (ops.map .visit)).outcome =
      ops.mapM fun op => (method grammar setup op).outcome := by
  induction ops with
  | nil =>
      rfl
  | cons op rest ih =>
      simp only [List.map_cons, draftAll, Traced.outcome_bind, Traced.outcome_pure, ih, List.mapM_cons]
      rfl

/-- Methods get distinct names, each its own or its own with a numbered suffix, and keep everything
else. -/
theorem nameMethods_forall₂ (drafts : List Method) :
    List.Forall₂
      (fun draft m => m = { draft with name := m.name } ∧
        (m.name = draft.name ∨ ∃ k, 1 ≤ k ∧ m.name = Naming.Allocator.suffixed draft.name k))
      drafts (nameMethods drafts) := by
  have hnames := Naming.distinct_forall₂ (drafts.map (·.name))
  unfold nameMethods
  -- The names were made distinct all together: their rest is not what the rest of the drafts would get.
  generalize Naming.distinct (drafts.map (·.name)) = names at hnames
  induction drafts generalizing names with
  | nil =>
      exact List.Forall₂.nil
  | cons draft rest ih =>
      rcases List.forall₂_cons_left_iff.1 hnames with ⟨name, names', hname, hrest, rfl⟩
      exact List.Forall₂.cons ⟨rfl, hname⟩ (ih names' hrest)

/-- What does not look at names sees the drafts in the methods. -/
theorem map_nameMethods {α : Type} {f : Method → α} (drafts : List Method)
    (hf : ∀ (m : Method) (name : String), f { m with name := name } = f m) :
    (nameMethods drafts).map f = drafts.map f := by
  have hrows : List.Forall₂ (fun draft m => f m = f draft) drafts (nameMethods drafts) := by
    refine (nameMethods_forall₂ drafts).imp ?_
    rintro draft m ⟨hm, _⟩
    rw [hm]
    exact hf draft _
  generalize nameMethods drafts = methods at hrows
  induction hrows with
  | nil =>
      rfl
  | cons hhead _ ih =>
      rw [List.map_cons, List.map_cons, hhead, ih]

/-- Methods are named by making their base names distinct. -/
theorem map_name_nameMethods (drafts : List Method) :
    (nameMethods drafts).map (·.name) = Naming.distinct (drafts.map (·.name)) := by
  have hlength := (Naming.distinct_forall₂ (drafts.map (·.name))).length_eq
  unfold nameMethods
  generalize Naming.distinct (drafts.map (·.name)) = names at hlength
  induction drafts generalizing names with
  | nil =>
      cases names with
      | nil => rfl
      | cons name rest => cases hlength
  | cons draft rest ih =>
      cases names with
      | nil =>
          cases hlength
      | cons name names =>
          simp only [List.zipWith_cons_cons, List.map_cons]
          rw [ih names (by simpa using hlength)]

/-- The credentials of a view depend on those of its methods only. -/
theorem credentialsOf_congr {methods methods' : List Method} :
    methods.map (·.credentials) = methods'.map (·.credentials) →
      credentialsOf methods = credentialsOf methods' := by
  intro h
  have hmap : ∀ methods : List Method, credentialsOf methods =
      (methods.map (·.credentials)).foldl Credentials.union {} := by
    intro methods
    rw [List.foldl_map]
    rfl
  rw [hmap, hmap, h]

/-! ## Views -/

/-- What a view takes over from a document and its drafts. -/
structure Viewed (grammar : Grammar) (document : Entries) (options : Options) (target : Target)
    (drafts : List Method) (v : View) : Prop where
  walk : (draftAll grammar ⟨document, options, target.isServerSide⟩ (steps grammar document)).outcome =
    .ok drafts
  schemes : (Security.readSchemes (securityTable grammar document)).outcome = .ok v.schemes
  isSecure : v.isSecure = !(securityTable grammar document).isNull
  credentials : v.credentials = credentialsOf drafts
  methods : v.methods = nameMethods drafts

/-- Every view is made of a document and the drafts of its operations. -/
theorem viewed_of_view {document : Value} {options : Options} {target : Target} {v : View} :
    (view grammar document options target).outcome = .ok v →
      ∃ entries drafts, document = .map entries ∧ Viewed grammar entries options target drafts v := by
  intro h
  simp only [view, Traced.outcome_bind, Traced.outcome_lift, bind_eq_ok_iff, accept_eq_ok_iff] at h
  rcases h with ⟨entries, htable, drafts, hdrafts, domain, _, schemes, hschemes, definitions, _, _, rfl⟩
  have hdocument : document = .map entries := by
    cases document <;> cases htable
    rfl
  exact ⟨entries, drafts, hdocument, hdrafts, hschemes, rfl, rfl, rfl⟩

namespace Viewed

variable {document : Entries} {options : Options} {target : Target} {drafts : List Method} {v : View}

/-- Operation by operation, the drafts of a view. -/
theorem drafts_forall₂ (h : Viewed grammar document options target drafts v) :
    List.Forall₂
      (fun op draft =>
        (method grammar ⟨document, options, target.isServerSide⟩ op).outcome = .ok draft)
      (retained grammar document) drafts := by
  rcases exists_operations_of_draftAll h.walk with ⟨ops, hops, hmethods⟩
  rwa [← operationsOf_steps hops]

/-- Operation by operation, the methods of a view. -/
theorem methods_forall₂ (h : Viewed grammar document options target drafts v) :
    List.Forall₂
      (fun op m => ∃ draft,
        (method grammar ⟨document, options, target.isServerSide⟩ op).outcome = .ok draft ∧
          m = { draft with name := m.name } ∧
            (m.name = draft.name ∨ ∃ k, 1 ≤ k ∧ m.name = Naming.Allocator.suffixed draft.name k))
      (retained grammar document) v.methods := by
  rw [h.methods]
  exact forall₂_through h.drafts_forall₂ (nameMethods_forall₂ drafts)

end Viewed

end Build
end ApiView
