import ApiView.Proofs.Build.Drafts
import ApiView.Proofs.Operation.Items

/-!
# Surroundings — what a build reads outside of the operations

Everything but the operations of a document is read by name: the tables that references lead to, the
security schemes, the definitions and a few settings.  So documents that differ only in where they list
operations build an operation alike, and their views differ in the methods only:

* `Alike`: documents with the same members, apart from the listing;
* `Setup.RefersLike`: setups in which references lead to the same nodes;
* `method_congr`: an operation has the same method in alike documents;
* `frame`, `View.withMethods`, `outcome_view`: a view is its frame with the methods of the walk put in;
* `frame_congr`: alike documents have the same frame.
-/

namespace ApiView

/-! ## References -/

namespace Reference

variable {d d' : Value} {kind : Kind}

/-- Documents with the same tables resolve pointers alike. -/
theorem resolve_congr (htables : ∀ path ∈ kind.tables, table? d path = table? d' path)
    (pointer : String) : resolve d kind pointer = resolve d' kind pointer := by
  -- A bare name is looked up in every table of its kind, and any other pointer in one of them.
  have hname : ∀ name, resolveName d kind pointer name = resolveName d' kind pointer name := by
    intro name
    have hfind : (kind.tables.findSome? fun path => (table? d path).bind (·.member? name)) =
        kind.tables.findSome? fun path => (table? d' path).bind (·.member? name) := by
      rw [← List.head?_filterMap, ← List.head?_filterMap]
      refine congrArg List.head? (List.filterMap_congr fun path hpath => ?_)
      rw [htables path hpath]
    unfold resolveName
    rw [hfind]
  have hin : ∀ path name, resolveIn d kind pointer path name = resolveIn d' kind pointer path name := by
    intro path name
    unfold resolveIn
    by_cases hpath : kind.tables.contains path = true
    · simp only [hpath, if_true, htables path (List.contains_iff_mem.1 hpath)]
    · simp only [hpath]
      rfl
  unfold resolve
  simp only [hname, hin]

/-- Documents with the same tables lead references to the same nodes. -/
theorem deref_congr (htables : ∀ path ∈ kind.tables, table? d path = table? d' path) (node : Value) :
    deref d kind node = deref d' kind node := by
  -- Chains are given up after as many steps in both documents.
  have hcount : entryCount d kind = entryCount d' kind := by
    unfold entryCount
    refine congrArg List.length (List.flatMap_congr fun path hpath => ?_)
    rw [htables path hpath]
  have hfollow : ∀ fuel seen node, follow d kind seen fuel node = follow d' kind seen fuel node := by
    intro fuel
    induction fuel with
    | zero =>
        intro seen node
        unfold follow
        rfl
    | succ fuel ih =>
        intro seen node
        unfold follow
        simp only [resolve_congr htables, ih]
  unfold deref
  rw [hcount, hfollow]

end Reference

namespace Build

variable {grammar : Grammar} {d d' : Entries} {options : Options} {target : Target}

/-! ## Alike documents -/

/-- Documents have the same members, apart from the one that they list their operations under. -/
def Alike (grammar : Grammar) (d d' : Entries) : Prop :=
  ∀ name, name ≠ listing grammar → d.member? name = d'.member? name

/-- Operations are not listed in any table that references lead to. -/
theorem listing_notMem_tables (grammar : Grammar) (kind : Reference.Kind) :
    ∀ path ∈ kind.tables, path ≠ [] ∧ path.head? ≠ some (listing grammar) := by
  cases grammar <;> cases kind <;> decide

namespace Alike

/-- Documents that are alike agree outside of the listing of their operations. -/
theorem member (h : Alike grammar d d') (name : String) (hname : name ≠ listing grammar) :
    d.member name = d'.member name := by
  unfold Entries.member
  rw [h name hname]

theorem table? (h : Alike grammar d d') {kind : Reference.Kind} {path : List String} :
    path ∈ kind.tables → Reference.table? (.map d) path = Reference.table? (.map d') path := by
  intro hpath
  obtain ⟨hnonempty, hhead⟩ := listing_notMem_tables grammar kind path hpath
  -- Only the first name of a path is looked up in the document itself.
  cases path with
  | nil =>
      exact absurd rfl hnonempty
  | cons name rest =>
      have hname : name ≠ listing grammar := by
        intro heq
        exact hhead (congrArg some heq)
      simp only [Reference.table?, Value.member?, Value.entries?, Option.bind_some, h name hname]

end Alike

/-! ## Operations of alike documents -/

/-- References lead to the same nodes in both setups. -/
def Setup.RefersLike (setup setup' : Setup) : Prop :=
  ∀ kind node, setup.deref kind node = setup'.deref kind node

section RefersLike

variable {setup setup' : Setup}

/-- Documents that are alike resolve references alike. -/
theorem Alike.refersLike (h : Alike grammar d d') (options : Options) (serverSide : Bool) :
    Setup.RefersLike ⟨d, options, serverSide⟩ ⟨d', options, serverSide⟩ := by
  intro kind node
  exact Reference.deref_congr (fun path hpath => h.table? hpath) node

/-- Parameters are classified alike where references resolve alike. -/
theorem classifyAll_congr (h : setup.RefersLike setup') (hside : setup.serverSide = setup'.serverSide)
    (locationField : String) (nodes : List Value) :
    classifyAll setup locationField nodes = classifyAll setup' locationField nodes := by
  induction nodes with
  | nil =>
      rfl
  | cons raw rest ih =>
      simp only [classifyAll, h .parameter raw, hside, ih]

theorem Swagger2.responses_congr (h : setup.RefersLike setup') (op : Operation) (produces : Value) :
    Swagger2.responses setup op produces = Swagger2.responses setup' op produces := by
  have hmembers : ∀ types table,
      Swagger2.responseMembers setup types table = Swagger2.responseMembers setup' types table := by
    intro types table
    induction table with
    | nil =>
        rfl
    | cons entry rest ih =>
        simp only [Swagger2.responseMembers, h .response entry.2, ih]
  unfold Swagger2.responses
  simp only [hmembers]

theorem OpenApi3.responses_congr (h : setup.RefersLike setup') (op : Operation) :
    OpenApi3.responses setup op = OpenApi3.responses setup' op := by
  have hmembers : ∀ table,
      OpenApi3.responseMembers setup table = OpenApi3.responseMembers setup' table := by
    intro table
    induction table with
    | nil =>
        rfl
    | cons entry rest ih =>
        simp only [OpenApi3.responseMembers, h .response entry.2, ih]
  unfold OpenApi3.responses
  simp only [hmembers]

theorem OpenApi3.body_congr (h : setup.RefersLike setup') (hoptions : setup.options = setup'.options)
    (op : Operation) : OpenApi3.body setup op = OpenApi3.body setup' op := by
  simp only [OpenApi3.body, h .requestBody _, hoptions]

end RefersLike

theorem OpenApi3.components_congr (h : Alike .openApi3 d d') :
    OpenApi3.components d = OpenApi3.components d' := by
  rw [OpenApi3.components, OpenApi3.components, h "components" (by decide)]

theorem securityTable_congr (h : Alike grammar d d') :
    securityTable grammar d = securityTable grammar d' := by
  cases grammar with
  | legacy =>
      exact h.member _ (by decide)
  | swagger2 =>
      exact h.member _ (by decide)
  | openApi3 =>
      simp only [securityTable, OpenApi3.securityTable, OpenApi3.components_congr h]

/-- An operation has the same method in alike documents, or fails alike in them. -/
theorem method_congr (h : Alike grammar d d') (options : Options) (serverSide : Bool)
    (op : Operation) :
    method grammar ⟨d, options, serverSide⟩ op = method grammar ⟨d', options, serverSide⟩ op := by
  -- A method depends on the document through references and a few of its members.
  have hrefers := h.refersLike options serverSide
  have hparameters := classifyAll_congr hrefers rfl
  have hsecurity := securityTable_congr h
  cases grammar with
  | legacy =>
      simp only [securityTable] at hsecurity
      simp only [method, Legacy.method, hparameters, hsecurity]
  | swagger2 =>
      have hshared := h.member "security" (by decide)
      have hproduces := h.member "produces" (by decide)
      have hconsumes := h.member "consumes" (by decide)
      have hmentions : d.hasMember "security" = d'.hasMember "security" :=
        congrArg Option.isSome (h "security" (by decide))
      have hresponses := Swagger2.responses_congr hrefers op
      simp only [securityTable] at hsecurity
      simp only [method, Swagger2.method, hparameters, hsecurity, hshared, hproduces, hconsumes,
        hmentions, hresponses]
  | openApi3 =>
      have hshared := h.member "security" (by decide)
      have hmentions : d.hasMember "security" = d'.hasMember "security" :=
        congrArg Option.isSome (h "security" (by decide))
      have hresponses := OpenApi3.responses_congr hrefers op
      have hbody := OpenApi3.body_congr hrefers rfl op
      simp only [securityTable] at hsecurity
      simp only [method, OpenApi3.method, hparameters, hsecurity, hshared, hmentions, hresponses,
        hbody]

/-! ## Frames of views -/

/-- The view of a document, methods and their credentials left out. -/
def frame (grammar : Grammar) (document : Entries) (options : Options) (target : Target) :
    Except Failure View := do
  let description := description grammar document
  let domain ← domain grammar document
  let schemes ← (Security.readSchemes (securityTable grammar document)).outcome
  let definitions ← definitionsOf (definitionsTable grammar document)
  accept .view
    (description.optionalTextProblems "description" ++ (Value.str domain).textProblems "domain")
    { grammar := grammar
      description := description.fieldText?
      domain := domain
      moduleName := options.moduleName
      className := options.className
      imports := options.imports
      isNode := target.isServerSide
      isES6 := options.es6 || target == .react
      isSecure := !(securityTable grammar document).isNull
      schemes := schemes
      definitions := definitions }

end Build

/-- A view with the methods that a walk has drafted, and their credentials. -/
def View.withMethods (v : View) (drafts : List Method) : View :=
  { v with credentials := Build.credentialsOf drafts, methods := Build.nameMethods drafts }

namespace Build

variable {grammar : Grammar} {d d' : Entries} {options : Options} {target : Target}

/-- A view is its frame with the methods of the walk put in. -/
theorem outcome_view (grammar : Grammar) (d : Entries) (options : Options) (target : Target) :
    (view grammar (.map d) options target).outcome =
      (draftAll grammar ⟨d, options, target.isServerSide⟩ (steps grammar d)).outcome >>= fun drafts =>
        frame grammar d options target >>= fun v => .ok (v.withMethods drafts) := by
  simp only [view, frame, Value.table, Traced.outcome_bind, Traced.outcome_lift, ok_bind]
  refine congrArg _ (funext fun drafts => ?_)
  -- Whatever fails after the walk fails in the frame, for the same reason.
  cases domain grammar d with
  | error e =>
      rfl
  | ok domain =>
      cases (Security.readSchemes (securityTable grammar d)).outcome with
      | error e =>
          rfl
      | ok schemes =>
          cases definitionsOf (definitionsTable grammar d) with
          | error e =>
              rfl
          | ok definitions =>
              simp only [ok_bind, accept]
              split
              · rfl
              · rfl

/-- Only a mapping has a view: the frame of its document with the drafted methods. -/
theorem view_eq_ok_iff {document : Value} {v : View} :
    (view grammar document options target).outcome = .ok v ↔
      ∃ entries drafts w, document = .map entries ∧
        (draftAll grammar ⟨entries, options, target.isServerSide⟩ (steps grammar entries)).outcome =
          .ok drafts ∧
        frame grammar entries options target = .ok w ∧ w.withMethods drafts = v := by
  cases document with
  | map entries =>
      simp only [outcome_view, bind_eq_ok_iff, Value.map.injEq, Except.ok.injEq]
      constructor
      · rintro ⟨drafts, hdrafts, w, hw, hv⟩
        exact ⟨entries, drafts, w, rfl, hdrafts, hw, hv⟩
      · rintro ⟨_, drafts, w, rfl, hdrafts, hw, hv⟩
        exact ⟨drafts, hdrafts, w, hw, hv⟩
  | _ =>
      constructor
      · intro h
        cases h
      · rintro ⟨_, _, _, hdocument, _⟩
        cases hdocument

/-- Documents that are alike have views alike in everything but methods. -/
theorem frame_congr (h : Alike grammar d d') (options : Options) (target : Target) :
    frame grammar d options target = frame grammar d' options target := by
  have hsecurity := securityTable_congr h
  have hinfo := h.member "info" (by cases grammar <;> decide)
  -- Each part of the frame is read off a few members of the document, none of them the listing.
  have hdescription : description grammar d = description grammar d' := by
    cases grammar with
    | legacy =>
        simp only [description, hinfo, h.member "description" (by decide)]
    | swagger2 =>
        simp only [description, hinfo]
    | openApi3 =>
        simp only [description, hinfo]
  have hdomain : domain grammar d = domain grammar d' := by
    cases grammar with
    | legacy =>
        simp only [domain, Legacy.domain, h.member "basePath" (by decide)]
    | swagger2 =>
        simp only [domain, Swagger2.domain, h.member "schemes" (by decide),
          h.member "host" (by decide), h.member "basePath" (by decide)]
    | openApi3 =>
        simp only [domain, OpenApi3.domain, h.member "servers" (by decide)]
  have hdefinitions : definitionsTable grammar d = definitionsTable grammar d' := by
    cases grammar with
    | legacy =>
        simp only [definitionsTable, Legacy.definitions, h "models" (by decide)]
    | swagger2 =>
        simp only [definitionsTable, Swagger2.definitions, h "definitions" (by decide)]
    | openApi3 =>
        simp only [definitionsTable, OpenApi3.definitions, OpenApi3.components_congr h]
  simp only [frame, hsecurity, hdescription, hdomain, hdefinitions]

end Build
end ApiView
