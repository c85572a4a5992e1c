import ApiView.Proofs.Build.Shapes
import ApiView.Proofs.Operation.Ignored

/-!
# PassedOver — what a view does not depend on

A build passes over parts of a document without a trace: nothing that it passes over takes a name, asks
for credentials, moves a method or ends a row of responses.  This file shows that a document and what is
left of it when ignored parts are taken out have the same view:

* `Thinned.exists_mapM`: a row of runs in which the dropped elements add nothing;
* `classifyAll_of_thinned`, `successRows_of_thinned`: the parameters and the responses of an operation;
* `outline_of_thinned`, `assemble_of_thinned`, `method_of_thinned`: its method;
* `view_of_thinned`: the view of a document.
-/

namespace ApiView

/-! ## Rows of runs -/

/-- Where what is dropped adds nothing to a row of results, what is left gives the same row. -/
theorem Thinned.exists_mapM {α β γ : Type} {drops : α → Prop} {f : α → Except Failure β}
    {g : β → List γ} {xs ys : List α} (hdrops : ∀ x b, drops x → f x = .ok b → g b = []) :
    Thinned drops Eq xs ys → ∀ {bs}, xs.mapM f = .ok bs →
      ∃ bs', ys.mapM f = .ok bs' ∧ bs'.flatMap g = bs.flatMap g := by
  intro h
  induction h with
  | nil =>
      intro bs hbs
      exact ⟨bs, hbs, rfl⟩
  | @keep x y _ _ heq _ ih =>
      intro bs hbs
      subst heq
      simp only [List.mapM_cons, bind_eq_ok_iff, pure_eq_ok_iff] at hbs
      obtain ⟨b, hb, rest, hrest, rfl⟩ := hbs
      obtain ⟨rest', hrest', hsame⟩ := ih hrest
      refine ⟨b :: rest', ?_, ?_⟩
      · simp only [List.mapM_cons, hb, hrest', ok_bind]
        rfl
      · rw [List.flatMap_cons, List.flatMap_cons, hsame]
  | @drop x _ _ hdrop _ ih =>
      intro bs hbs
      simp only [List.mapM_cons, bind_eq_ok_iff, pure_eq_ok_iff] at hbs
      obtain ⟨b, hb, rest, hrest, rfl⟩ := hbs
      obtain ⟨rest', hrest', hsame⟩ := ih hrest
      refine ⟨rest', hrest', ?_⟩
      rw [List.flatMap_cons, hdrops x b hdrop hb, List.nil_append, hsame]

namespace Build

variable {grammar : Grammar} {setup : Setup} {op op' : Operation} {m : Method} {draft : Draft}

/-! ## Parameters -/

/-- A node that is ignored gives no parameter. -/
theorem classifyRaw_of_ignored {raw : Value} :
    Ignored setup raw → classifyRaw setup "in" raw = .ok none := by
  rintro ⟨node, hderef, hdropped⟩
  unfold classifyRaw
  rw [hderef, ok_bind]
  by_cases hmap : node.isMap = true
  · rcases hdropped with hnone | hdropped
    · rw [hmap] at hnone
      cases hnone
    · rw [if_pos hmap, hdropped]
  · rw [if_neg hmap]
    rfl

/-- Parameters that are dropped can as well be left out. -/
theorem classifyAll_of_thinned {nodes nodes' : List Value} {parameters : List Parameter}
    (h : Thinned (Ignored setup) Eq nodes nodes') :
    (classifyAll setup "in" nodes).outcome = .ok parameters →
      (classifyAll setup "in" nodes').outcome = .ok parameters := by
  intro hparameters
  simp only [outcome_classifyAll, bind_eq_ok_iff, Except.ok.injEq] at hparameters ⊢
  obtain ⟨rows, hrows, rfl⟩ := hparameters
  have hdrops : ∀ raw (p? : Option Parameter), Ignored setup raw →
      classifyRaw setup "in" raw = .ok p? → p?.toList = [] := by
    intro raw p? hignored hraw
    rw [classifyRaw_of_ignored hignored] at hraw
    cases hraw
    rfl
  obtain ⟨rows', hrows', hsame⟩ := h.exists_mapM hdrops hrows
  refine ⟨rows', hrows', ?_⟩
  -- A parameter that may be there is a row of at most one.
  rw [List.filterMap_eq_flatMap_toList, List.filterMap_eq_flatMap_toList]
  exact hsame

/-! ## Responses -/

theorem isSuccess_of_unsuccessful {entry : Scalar × Value} {success : Bool}
    (h : Unsuccessful entry) : isSuccess entry.1 = .ok success → success = false := by
  intro hsuccess
  simp only [isSuccess, bind_eq_ok_iff, pure_eq_ok_iff] at hsuccess
  obtain ⟨text, htext, rfl⟩ := hsuccess
  have hdisplay : entry.1.display = text := Value.displayed_eq_ok htext
  obtain ⟨hok, hcreated⟩ := h
  rw [hdisplay] at hok hcreated
  simp [hok, hcreated]

/-- Responses of failure can as well be left out. -/
theorem successRows_of_thinned {shapes : Scalar → Value → Except Failure (List Response)}
    {table table' : Entries} {responses : List Response} (h : Thinned Unsuccessful Eq table table') :
    successRows setup shapes table = .ok responses →
      successRows setup shapes table' = .ok responses := by
  intro hresponses
  simp only [successRows, bind_eq_ok_iff, pure_eq_ok_iff] at hresponses ⊢
  obtain ⟨rows, hrows, rfl⟩ := hresponses
  have hdrops : ∀ entry row, Unsuccessful entry → successRow setup shapes entry = .ok row →
      id row = [] := by
    rintro ⟨status, raw⟩ row hfailure hrow
    simp only [successRow, bind_eq_ok_iff] at hrow
    obtain ⟨success, hsuccess, hrow⟩ := hrow
    -- The status could be shown, or there were no row.
    obtain rfl := isSuccess_of_unsuccessful hfailure hsuccess
    cases hrow
    rfl
  obtain ⟨rows', hrows', hsame⟩ := h.exists_mapM hdrops hrows
  refine ⟨rows', hrows', ?_⟩
  rwa [List.flatMap_id, List.flatMap_id] at hsame

/-- A table of responses with its failures left out keeps the others under their statuses. -/
theorem thinned_of_entriesThinned {table table' : Entries} :
    Entries.Thinned Unsuccessful (fun _ => Eq) table table' → Thinned Unsuccessful Eq table table' := by
  intro h
  refine h.imp ?_
  rintro ⟨status, raw⟩ ⟨status', raw'⟩ ⟨hstatus, hraw⟩
  dsimp only at hstatus hraw
  rw [hstatus, hraw]

theorem Swagger2.responses_of_thinned {produces : Value} {responses : List Response}
    (h : ThinnedOperation setup op op') :
    Swagger2.responses setup op produces = .ok responses →
      Swagger2.responses setup op' produces = .ok responses := by
  intro hresponses
  unfold Swagger2.responses at hresponses ⊢
  rcases responses_of_thinnedNode h.node with hsame | ⟨table, table', htable, htable', hthinned⟩
  · rw [hsame]
    exact hresponses
  · rw [htable] at hresponses
    rw [htable']
    simp only [Swagger2.responseMembers_eq, bind_eq_ok_iff] at hresponses ⊢
    obtain ⟨types, htypes, hrows⟩ := hresponses
    exact ⟨types, htypes, successRows_of_thinned (thinned_of_entriesThinned hthinned) hrows⟩

theorem OpenApi3.responses_of_thinned {responses : List Response}
    (h : ThinnedOperation setup op op') :
    OpenApi3.responses setup op = .ok responses →
      OpenApi3.responses setup op' = .ok responses := by
  intro hresponses
  unfold OpenApi3.responses at hresponses ⊢
  rcases responses_of_thinnedNode h.node with hsame | ⟨table, table', htable, htable', hthinned⟩
  · rw [hsame]
    exact hresponses
  · rw [htable] at hresponses
    rw [htable']
    simp only [OpenApi3.responseMembers_eq] at hresponses ⊢
    exact successRows_of_thinned (thinned_of_entriesThinned hthinned) hresponses

/-! ## Methods -/

namespace ThinnedOperation

theorem member? (h : ThinnedOperation setup op op') (name : String)
    (hname : name ∉ ["parameters", "responses"]) : op'.node.member? name = op.node.member? name :=
  member?_of_thinnedNode h.node hname

theorem member (h : ThinnedOperation setup op op') (name : String)
    (hname : name ∉ ["parameters", "responses"]) : op'.node.member name = op.node.member name :=
  congrArg (·.getD .null) (h.member? name hname)

end ThinnedOperation

/-- A method is put together of members that stay. -/
theorem assemble_of_thinned (h : ThinnedOperation setup op op') (options : Options) (draft : Draft) :
    assemble options op' draft = assemble options op draft := by
  have hothers : ∀ name ∈ ["tags", "externalDocs", "description", "summary"],
      name ∉ ["parameters", "responses"] := by
    decide
  have hmember : ∀ name ∈ ["tags", "externalDocs", "description", "summary"],
      op'.node.member name = op.node.member name :=
    fun name hname => h.member name (hothers name hname)
  exact assemble_congr h.path h.verb hmember options draft

theorem body_of_thinned (h : ThinnedOperation setup op op') :
    OpenApi3.body setup op' = OpenApi3.body setup op := by
  simp only [OpenApi3.body, placeOf, Body.parameter, Body.nameValue, h.path, h.verb,
    h.member "requestBody" (by decide), h.member Body.nameExtension (by decide)]

/-- What is read apart from the parameters is read off members that stay, or off responses. -/
theorem outline_of_thinned (hgrammar : grammar ≠ .legacy) (h : ThinnedOperation setup op op') :
    outline grammar setup op = .ok draft → outline grammar setup op' = .ok draft := by
  intro hdraft
  -- Everything but parameters and responses is read off members that thinning leaves alone.
  have hname : ∀ explicit, baseName op' explicit = baseName op explicit := by
    intro explicit
    simp only [baseName, h.path, h.verb]
  have hmentions : op'.node.hasMember "security" = op.node.hasMember "security" :=
    congrArg Option.isSome (h.member? "security" (by decide))
  cases grammar with
  | legacy =>
      exact absurd rfl hgrammar
  | swagger2 =>
      have hproduces : effectiveProduces setup op' = effectiveProduces setup op := by
        rw [effectiveProduces, effectiveProduces, h.member "produces" (by decide)]
      have hheaders : ∀ strict produces consumes, Swagger2.headers strict op' produces consumes =
          Swagger2.headers strict op produces consumes := by
        intro strict produces consumes
        simp only [Swagger2.headers, Swagger2.contentTypeHeader, placeOf, h.path, h.verb]
      simp only [outline, bind_eq_ok_iff, pure_eq_ok_iff, hname, hmentions, hproduces, hheaders,
        h.member "security" (by decide), h.member "operationId" (by decide),
        h.member "consumes" (by decide)] at hdraft ⊢
      obtain ⟨credentials, hcredentials, name, hbase, headers, hread, responses, hresponses, rfl⟩ :=
        hdraft
      exact ⟨credentials, hcredentials, name, hbase, headers, hread, responses,
        Swagger2.responses_of_thinned h hresponses, rfl⟩
  | openApi3 =>
      simp only [outline, bind_eq_ok_iff, pure_eq_ok_iff, hname, hmentions, body_of_thinned h,
        h.member "security" (by decide),
        h.member "operationId" (by decide)] at hdraft ⊢
      obtain ⟨credentials, hcredentials, name, hbase, responses, hresponses, body, hbody, rfl⟩ :=
        hdraft
      exact ⟨credentials, hcredentials, name, hbase, responses,
        OpenApi3.responses_of_thinned h hresponses, body, hbody, rfl⟩

/-- A method is the same without the entries that are passed over. -/
theorem method_of_thinned (hgrammar : grammar ≠ .legacy) (h : ThinnedOperation setup op op') :
    (method grammar setup op).outcome = .ok m → (method grammar setup op').outcome = .ok m := by
  intro hm
  obtain ⟨declared, draft, hdeclared, hdraft, hassemble⟩ := method_eq_ok_iff.1 hm
  have hlocation : locationField grammar = "in" := by
    cases grammar with
    | legacy =>
        exact absurd rfl hgrammar
    | _ =>
        rfl
  rw [hlocation] at hdeclared
  have hdeclared' := classifyAll_of_thinned (parameterNodes_of_thinned hgrammar h) hdeclared
  refine method_eq_ok_iff.2 ⟨declared, draft, ?_, outline_of_thinned hgrammar h hdraft, ?_⟩
  · rw [hlocation]
    exact hdeclared'
  · rw [assemble_of_thinned h]
    exact hassemble

/-! ## Views -/

variable {d d' : Entries} {options : Options} {target : Target}

/-- The walk of a thinned document drafts the same methods. -/
theorem draftAll_of_thinned (hgrammar : grammar ≠ .legacy) {serverSide : Bool} {drafts : List Method}
    (h : ThinnedDocument ⟨d, options, serverSide⟩ d d') :
    (draftAll grammar ⟨d, options, serverSide⟩ (steps grammar d)).outcome = .ok drafts →
      (draftAll grammar ⟨d', options, serverSide⟩ (steps grammar d')).outcome = .ok drafts := by
  intro hdrafts
  obtain ⟨ops, hops, hmethods⟩ := exists_operations_of_draftAll hdrafts
  have hunbroken := unbroken_of_thinned hgrammar h (exists_operationsOf_iff.1 ⟨ops, hops⟩)
  rw [operationsOf_steps hops] at hmethods
  refine draftAll_of_methods (operationsOf_steps_of_unbroken hunbroken) ?_
  -- Operation by operation, from the draft back to the operation and on to what is left of it.
  have hthrough := forall₂_through hmethods.flip (retained_of_thinned hgrammar h)
  refine hthrough.flip.imp ?_
  rintro op' m ⟨op, hm, hop⟩
  rw [← method_congr (alike_of_thinnedDocument hgrammar h)]
  exact method_of_thinned hgrammar hop hm

/-- Taking any of the ignored parts out of a document leaves its view as it is. -/
theorem view_of_thinned {v : View} (hgrammar : grammar ≠ .legacy)
    (h : ThinnedDocument ⟨d, options, target.isServerSide⟩ d d')
    (hv : (view grammar (.map d) options target).outcome = .ok v) :
    (view grammar (.map d') options target).outcome = .ok v := by
  obtain ⟨_, drafts, outside, hdocument, hdrafts, hframe, rfl⟩ := view_eq_ok_iff.1 hv
  cases hdocument
  have hframe' : frame grammar d' options target = .ok outside := by
    rw [← frame_congr (alike_of_thinnedDocument hgrammar h), hframe]
  have hdrafts' := draftAll_of_thinned hgrammar h hdrafts
  exact view_eq_ok_iff.2 ⟨d', drafts, outside, rfl, hdrafts', hframe', rfl⟩

/-- A document with the given table of paths, and a header that a proxy adds. -/
def proxyDocument (table : Entries) : Entries :=
  [(.str "parameters", .object
      [("Via", .object
        [("name", .str "Via"), ("in", .str "header"), ("x-proxy-header", .bool true)])]),
    (.str "paths", .map table)]

/-- A parameter in the query. -/
def queryNode (name : String) : Value :=
  .object [("name", .str name), ("in", .str "query")]

/-- A parameter that is excluded from bindings. -/
def excludedNode : Value :=
  .object [("name", .str "debug"), ("in", .str "query"), ("x-exclude-from-bindings", .bool true)]

/-- A reference to the header that a proxy adds. -/
def proxyReference : Value :=
  .object [("$ref", .str "#/parameters/Via")]

/-- An operation with the given parameters and responses. -/
def listNode (parameters : List Value) (responses : List (String × Value)) : Entries :=
  [(.str "operationId", .str "list"), (.str "parameters", .list parameters),
    (.str "responses", .object responses)]

/-- A path with something ignored in every place. -/
def bulkyTable : Entries :=
  [(.str "/notes", .str "none so far"),
    (.str "/pets", .map
      [(.str "summary", .str "Pets"),
        (.str "parameters", .list [excludedNode, queryNode "limit"]),
        (.str "get", .map (listNode [queryNode "tag", proxyReference, .str "none"]
          [("200", .object []), ("404", .object [("schema", .object [])])])),
        (.str "trace", .map (listNode [] [])),
        (.str "post", .null)])]

/-- The same path with nothing ignored in it. -/
def bareTable : Entries :=
  [(.str "/pets", .map
    [(.str "parameters", .list [queryNode "limit"]),
      (.str "get", .map (listNode [queryNode "tag"] [("200", .object [])]))])]

theorem proxyDocument_thinned :
    ThinnedDocument ⟨proxyDocument bulkyTable, {}, false⟩ (proxyDocument bulkyTable)
      (proxyDocument bareTable) := by
  -- Three parameters are ignored, each for a reason of its own.
  have hexcluded : Ignored ⟨proxyDocument bulkyTable, {}, false⟩ excludedNode :=
    ⟨excludedNode, rfl, Or.inr rfl⟩
  have hproxy : Ignored ⟨proxyDocument bulkyTable, {}, false⟩ proxyReference :=
    ⟨.object [("name", .str "Via"), ("in", .str "header"), ("x-proxy-header", .bool true)], rfl,
      Or.inr rfl⟩
  have htext : Ignored ⟨proxyDocument bulkyTable, {}, false⟩ (.str "none") :=
    ⟨.str "none", rfl, Or.inl rfl⟩
  have hshared : Thinned (Ignored ⟨proxyDocument bulkyTable, {}, false⟩) Eq
      [excludedNode, queryNode "limit"] [queryNode "limit"] :=
    Thinned.drop hexcluded (Thinned.keep rfl Thinned.nil)
  have hown : Thinned (Ignored ⟨proxyDocument bulkyTable, {}, false⟩) Eq
      [queryNode "tag", proxyReference, .str "none"] [queryNode "tag"] :=
    Thinned.keep rfl (Thinned.drop hproxy (Thinned.drop htext Thinned.nil))
  have hresponses : Entries.Thinned Unsuccessful (fun _ => Eq)
      [(.str "200", .object []), (.str "404", .object [("schema", .object [])])]
      [(.str "200", .object [])] :=
    Thinned.keep ⟨rfl, rfl⟩ (Thinned.drop ⟨by decide, by decide⟩ Thinned.nil)
  have hnode : ThinnedNode ⟨proxyDocument bulkyTable, {}, false⟩
      (listNode [queryNode "tag", proxyReference, .str "none"]
        [("200", .object []), ("404", .object [("schema", .object [])])])
      (listNode [queryNode "tag"] [("200", .object [])]) :=
    Thinned.keep ⟨rfl, Or.inl rfl⟩ <|
      Thinned.keep ⟨rfl, Or.inr (Or.inl ⟨rfl, Or.inr ⟨_, _, rfl, rfl, hown⟩⟩)⟩ <|
        Thinned.keep ⟨rfl, Or.inr (Or.inr ⟨rfl, Or.inr ⟨_, _, rfl, rfl, hresponses⟩⟩)⟩ Thinned.nil
  -- In the table of paths, entries that are no path items go, and idle members of the one that is.
  have htable : ThinnedTable ⟨proxyDocument bulkyTable, {}, false⟩ bulkyTable bareTable := by
    refine Thinned.drop rfl (Thinned.keep ⟨rfl, Or.inr ⟨_, _, rfl, rfl, ?_⟩⟩ Thinned.nil)
    refine Thinned.drop (Or.inl ⟨by decide +kernel, by decide⟩) ?_
    refine Thinned.keep ⟨rfl, Or.inr (Or.inl ⟨rfl, Or.inr ⟨_, _, rfl, rfl, hshared⟩⟩)⟩ ?_
    refine Thinned.keep ⟨rfl, Or.inr (Or.inr ⟨by decide +kernel, _, _, rfl, rfl, hnode⟩)⟩ ?_
    refine Thinned.drop (Or.inl ⟨by decide +kernel, by decide⟩) ?_
    exact Thinned.drop (Or.inr ⟨by decide +kernel, rfl⟩) Thinned.nil
  exact Thinned.keep ⟨rfl, Or.inl rfl⟩
    (Thinned.keep ⟨rfl, Or.inr ⟨rfl, _, _, rfl, rfl, htable⟩⟩ Thinned.nil)

/-- The methods of a view, with their parameters and the statuses of their responses. -/
def methodSummary (v : View) : List (String × List String × List String) :=
  v.methods.map fun m => (m.name, m.parameters.map (·.name), m.responses.map (·.status))

theorem proxyDocument_view_of_thinned :
    ThinnedDocument ⟨proxyDocument bulkyTable, {}, false⟩ (proxyDocument bulkyTable)
        (proxyDocument bareTable) ∧
      ∃ v, (view .swagger2 (.map (proxyDocument bulkyTable)) {} .custom).outcome = .ok v ∧
        methodSummary v = [("list", ["tag", "limit"], ["200"])] ∧
        (view .swagger2 (.map (proxyDocument bareTable)) {} .custom).outcome = .ok v := by
  have hrun : (view .swagger2 (.map (proxyDocument bulkyTable)) {} .custom).outcome.toOption.map
      methodSummary = some [("list", ["tag", "limit"], ["200"])] := by
    decide +kernel
  obtain ⟨v, hv, hsummary⟩ := exists_ok_of_toOption_map hrun
  exact ⟨proxyDocument_thinned, v, hv, hsummary,
    view_of_thinned (by decide) proxyDocument_thinned hv⟩

end Build
end ApiView
