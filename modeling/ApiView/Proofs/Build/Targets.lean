import ApiView.Proofs.Build.Outline

/-!
# Targets — what the target of a view decides

A server may send headers that a proxy would add, and a client may not.  Nothing else in a method asks
for the target, so the view for a client is the one for a server with those parameters left out, and
with everything that is derived from the parameters derived again:

* `Parameter.isProxied`, `classify_client`: a client drops what a proxy adds, and nothing else;
* `declaredParameters`: the parameters that a server's method declares, with their nodes;
* `narrow`, `method_client`: the method of a client from that of a server;
* `frame_target`: the two flags of a view that name its target;
* `views_of_targets`: the views of one document for all targets.
-/

namespace ApiView

/-! ## One parameter -/

namespace Parameter

variable {locationField : String} {node : Entries}

/-- Whether a parameter node is a header that a proxy adds. -/
def isProxied (node : Entries) : Bool :=
  (node.member "x-proxy-header").truthy

/-- The place of a node that no proxy adds is the same for every target. -/
theorem place_of_not_proxied (serverSide serverSide' : Bool) :
    isProxied node = false →
      place serverSide locationField node = place serverSide' locationField node := by
  intro hnot
  unfold isProxied at hnot
  simp only [place, hnot, Bool.false_and]

/-- A client has no place for what a proxy adds. -/
theorem exists_drop_of_proxied :
    isProxied node = true → ∃ drop, place false locationField node = .ok (.error drop) := by
  intro hproxied
  unfold isProxied at hproxied
  by_cases hexcluded : (node.member "x-exclude-from-bindings").isTrue = true
  -- What is excluded is dropped before anybody asks for the target.
  · refine ⟨.excluded, ?_⟩
    simp only [place, hexcluded, if_true]
    rfl
  · refine ⟨.proxyHeader, ?_⟩
    simp only [place, hexcluded, hproxied]
    rfl

/-- What a server classifies, a client classifies alike, or drops if a proxy adds it. -/
theorem classify_client {p? : Option Parameter} :
    (classify true locationField (.map node)).outcome = .ok p? →
      (classify false locationField (.map node)).outcome =
        .ok (if isProxied node then none else p?) := by
  intro h
  by_cases hproxied : isProxied node = true
  · have hdropped : ∃ drop, place false locationField node = .ok (.error drop) :=
      exists_drop_of_proxied hproxied
    obtain ⟨drop, hdrop⟩ := hdropped
    simp only [classify, Value.table, Traced.outcome_bind, Traced.outcome_lift, bind_eq_ok_iff] at h
    obtain ⟨_, hnode, name, hname, _⟩ := h
    cases hnode
    simp only [classify, Value.table, Traced.outcome_bind, Traced.outcome_lift, hname, hdrop, hproxied,
      ok_bind, if_true]
    rfl
  · have hplace : place false locationField node = place true locationField node :=
      place_of_not_proxied false true (Bool.eq_false_iff.2 hproxied)
    simp only [classify, hproxied] at h ⊢
    simp only [Value.table, Traced.outcome_bind, Traced.outcome_lift, ok_bind, hplace] at h ⊢
    exact h

end Parameter

/-- A method with other parameters, and with everything that is derived from them. -/
def Method.withParameters (m : Method) (parameters : List Parameter) : Method :=
  { m with
    parameters := parameters
    hasBody := Build.travelsAt .body parameters
    isForm := Build.travelsAt .form parameters
    hasExtraHeader := Build.travelsAt .header parameters
    allOptional := ApiView.allOptional parameters }

namespace Build

variable {grammar : Grammar} {d : Entries} {options : Options} {op : Operation} {m : Method}

/-! ## The parameters of an operation -/

/-- The parameter that a raw node declares, with the node that its references lead to. -/
def declared? (setup : Setup) (locationField : String) (raw : Value) : Option (Entries × Parameter) :=
  match setup.deref .parameter raw, classifyRaw setup locationField raw with
  | .ok (.map node), .ok (some p) => some (node, p)
  | _, _ => none

/-- The parameters that an operation declares, with their nodes, in order. -/
def declaredParameters (grammar : Grammar) (setup : Setup) (op : Operation) :
    List (Entries × Parameter) :=
  (parameterNodes grammar op).filterMap (declared? setup (locationField grammar))

/-- The parameters that no proxy adds. -/
def unproxied (declared : List (Entries × Parameter)) : List Parameter :=
  (declared.filter fun entry => !Parameter.isProxied entry.1).map (·.2)

/-- A client classifies the node that a server classifies, unless it drops it. -/
theorem classifyRaw_client {locationField : String} {raw : Value} {p? : Option Parameter} :
    classifyRaw ⟨d, options, true⟩ locationField raw = .ok p? →
      p? = (declared? ⟨d, options, true⟩ locationField raw).map (·.2) ∧
        classifyRaw ⟨d, options, false⟩ locationField raw =
          .ok (((declared? ⟨d, options, true⟩ locationField raw).filter
            fun entry => !Parameter.isProxied entry.1).map (·.2)) := by
  intro hserver
  have hclassified := hserver
  simp only [classifyRaw, bind_eq_ok_iff] at hclassified
  obtain ⟨node, hnode, hp⟩ := hclassified
  -- References resolve alike for every target.
  have hnode' : Setup.deref ⟨d, options, false⟩ .parameter raw = .ok node := hnode
  cases node with
  | map node =>
      simp only [Value.isMap, if_true] at hp
      have hclient := Parameter.classify_client hp
      -- A client drops what a proxy sends, and classifies the rest as a server does.
      have hraw : classifyRaw ⟨d, options, false⟩ locationField raw =
          .ok (if Parameter.isProxied node then none else p?) := by
        simp only [classifyRaw, hnode', ok_bind, Value.isMap, if_true, hclient]
      cases p? with
      | none =>
          simp [declared?, hnode, hserver, hraw]
      | some p =>
          have hdeclared : declared? ⟨d, options, true⟩ locationField raw = some (node, p) := by
            simp only [declared?, hnode, hserver]
          rw [hdeclared, hraw]
          by_cases hproxied : Parameter.isProxied node = true
          · simp [Option.filter, hproxied]
          · simp [Option.filter, hproxied]
  | _ =>
      cases hp
      simp [declared?, hnode, classifyRaw, hnode', ok_bind, Value.isMap, pure_eq_ok_iff]

/-- A server classifies the declared parameters, and a client those that no proxy adds. -/
theorem classifyAll_client {locationField : String} {nodes : List Value}
    {parameters : List Parameter} :
    (classifyAll ⟨d, options, true⟩ locationField nodes).outcome = .ok parameters →
      parameters = (nodes.filterMap (declared? ⟨d, options, true⟩ locationField)).map (·.2) ∧
        (classifyAll ⟨d, options, false⟩ locationField nodes).outcome =
          .ok (unproxied (nodes.filterMap (declared? ⟨d, options, true⟩ locationField))) := by
  intro h
  obtain ⟨rows, hrows, rfl⟩ := classifyAll_eq_ok_iff.1 h
  have hserver : rows =
      nodes.map fun raw => (declared? ⟨d, options, true⟩ locationField raw).map (·.2) := by
    rw [← List.forall₂_eq_eq_eq, List.forall₂_map_right_iff]
    exact hrows.flip.imp fun _ _ hraw => (classifyRaw_client hraw).1
  -- Node by node, a client has what a server has, unless a proxy sends it.
  have hclient : List.Forall₂
      (fun raw p? => classifyRaw ⟨d, options, false⟩ locationField raw = .ok p?) nodes
      (nodes.map fun raw => ((declared? ⟨d, options, true⟩ locationField raw).filter
        fun entry => !Parameter.isProxied entry.1).map (·.2)) := by
    rw [List.forall₂_map_right_iff, List.forall₂_same]
    intro raw hraw
    obtain ⟨p?, _, hp⟩ := exists_match hrows hraw
    exact (classifyRaw_client hp).2
  constructor
  · rw [hserver, List.filterMap_map, List.map_filterMap]
    rfl
  · refine classifyAll_eq_ok_iff.2 ⟨_, hclient, ?_⟩
    rw [unproxied, List.filter_filterMap, List.map_filterMap, List.filterMap_map]
    rfl

/-! ## The method of an operation -/

/-- The method of a client from that of a server: parameters that a proxy adds are left out, and the
body of a request stays. -/
def narrow (grammar : Grammar) (setup : Setup) (op : Operation) (m : Method) : Method :=
  m.withParameters (unproxied (declaredParameters grammar setup op) ++ bodyParameters grammar setup op)

theorem assemble_withDeclared {draft : Draft} {declared : List Parameter}
    (declared' : List Parameter) :
    assemble options op (draft.withDeclared declared) = .ok m →
      m.parameters = declared ++ draft.parameters ∧
        assemble options op (draft.withDeclared declared') =
          .ok (m.withParameters (declared' ++ draft.parameters)) := by
  intro h
  simp only [assemble, bind_eq_ok_iff, accept_eq_ok_iff] at h ⊢
  obtain ⟨tags, htags, hproblems, rfl⟩ := h
  -- What is checked about a method does not mention its parameters.
  exact ⟨rfl, tags, htags, hproblems, rfl⟩

/-- The method for a client is the one for a server with some of the parameters left out. -/
theorem method_client :
    (method grammar ⟨d, options, true⟩ op).outcome = .ok m →
      m.parameters = (declaredParameters grammar ⟨d, options, true⟩ op).map (·.2) ++
          bodyParameters grammar ⟨d, options, true⟩ op ∧
        (method grammar ⟨d, options, false⟩ op).outcome =
          .ok (narrow grammar ⟨d, options, true⟩ op m) := by
  intro h
  obtain ⟨parameters, draft, hparameters, hdraft, hm⟩ := method_eq_ok_iff.1 h
  obtain ⟨rfl, hclient⟩ := classifyAll_client hparameters
  have hbody := parameters_of_outline hdraft
  obtain ⟨hall, hnarrow⟩ := assemble_withDeclared
    (unproxied (declaredParameters grammar ⟨d, options, true⟩ op)) hm
  rw [hbody] at hall hnarrow
  -- Both methods have the same outline, and only the declared parameters in front differ.
  refine ⟨hall, method_eq_ok_iff.2 ⟨_, draft, hclient, ?_, hnarrow⟩⟩
  rw [outline_serverSide, hdraft]

/-! ## The view of a document -/

/-- The target shows in the frame of a view as two flags. -/
theorem frame_target (grammar : Grammar) (d : Entries) (options : Options) (target target' : Target) :
    frame grammar d options target = frame grammar d options target' >>= fun v =>
      .ok { v with isNode := target.isServerSide, isES6 := options.es6 || target == .react } := by
  simp only [frame, bind_assoc]
  refine congrArg _ (funext fun domain => congrArg _ (funext fun schemes => ?_))
  refine congrArg _ (funext fun definitions => ?_)
  unfold accept
  split
  · rfl
  · rfl

/-- The flags of a view tell its target. -/
theorem flags_of_frame {target : Target} {v : View} :
    frame grammar d options target = .ok v →
      v.isNode = target.isServerSide ∧ v.isES6 = (options.es6 || target == .react) := by
  intro h
  have hsame := frame_target grammar d options target target
  rw [h, ok_bind, Except.ok.injEq] at hsame
  exact ⟨congrArg View.isNode hsame, congrArg View.isES6 hsame⟩

section Narrow

variable {setup : Setup} {ops : List Operation} {drafts : List Method}

/-- What does not look at parameters sees the methods of a server in those of a client. -/
theorem map_zipWith_narrow {α : Type} {f : Method → α} (hf : ∀ op m, f (narrow grammar setup op m) = f m) :
    ops.length = drafts.length →
      (List.zipWith (narrow grammar setup) ops drafts).map f = drafts.map f := by
  intro hlength
  calc
    (List.zipWith (narrow grammar setup) ops drafts).map f
        = List.zipWith (fun _ m => f m) ops drafts := by
          rw [List.map_zipWith]
          simp only [hf]
    _ = ((ops.zip drafts).map Prod.snd).map f := by
          rw [List.map_map, ← List.map_uncurry_zip_eq_zipWith]
          rfl
    _ = drafts.map f := by
          rw [List.map_snd_zip (Nat.le_of_eq hlength.symm)]

/-- Names are made distinct before or after the parameters are narrowed. -/
theorem nameMethods_zipWith_narrow :
    ops.length = drafts.length →
      nameMethods (List.zipWith (narrow grammar setup) ops drafts) =
        List.zipWith (narrow grammar setup) ops (nameMethods drafts) := by
  intro hlength
  unfold nameMethods
  rw [map_zipWith_narrow (fun _ _ => rfl) hlength]
  -- Leaving out parameters changes no names, so the distinct ones are the same on both sides.
  generalize Naming.distinct (drafts.map (·.name)) = names
  induction ops generalizing drafts names with
  | nil =>
      rfl
  | cons op ops ih =>
      cases drafts with
      | nil =>
          cases hlength
      | cons draft rest =>
          cases names with
          | nil =>
              rfl
          | cons name names =>
              simp only [List.zipWith_cons_cons]
              rw [ih (by simpa using hlength)]
              rfl

/-- Leaving out parameters changes no credentials. -/
theorem credentialsOf_zipWith_narrow :
    ops.length = drafts.length →
      credentialsOf (List.zipWith (narrow grammar setup) ops drafts) = credentialsOf drafts := by
  intro hlength
  exact credentialsOf_congr (map_zipWith_narrow (fun _ _ => rfl) hlength)

end Narrow

/-- The drafts of a client, operation by operation, from those of a server. -/
theorem methods_client {ops : List Operation} {drafts : List Method} :
    List.Forall₂ (fun op m => (method grammar ⟨d, options, true⟩ op).outcome = .ok m) ops drafts →
      List.Forall₂ (fun op m => (method grammar ⟨d, options, false⟩ op).outcome = .ok m) ops
        (List.zipWith (narrow grammar ⟨d, options, true⟩) ops drafts) := by
  intro h
  induction h with
  | nil =>
      exact List.Forall₂.nil
  | cons hhead _ ih =>
      exact List.Forall₂.cons (method_client hhead).2 ih

/-- A method that is renamed keeps its parameters. -/
theorem parameters_of_drafts {ops : List Operation} {drafts : List Method} :
    List.Forall₂ (fun op m => (method grammar ⟨d, options, true⟩ op).outcome = .ok m) ops drafts →
      List.Forall₂
        (fun op m => m.parameters =
          (declaredParameters grammar ⟨d, options, true⟩ op).map (·.2) ++
            bodyParameters grammar ⟨d, options, true⟩ op)
        ops (nameMethods drafts) := by
  intro h
  refine (forall₂_through h (nameMethods_forall₂ drafts)).imp ?_
  rintro op m ⟨draft, hdraft, hm, _⟩
  rw [hm]
  exact (method_client hdraft).1

/-- Both targets of servers have one view, up to one flag. -/
theorem view_react (grammar : Grammar) (document : Value) (options : Options) :
    (view grammar document options .react).outcome =
      (view grammar document options .node).outcome.map (fun v => { v with isES6 := true }) := by
  cases document with
  | map d =>
      have hside : Target.react.isServerSide = Target.node.isServerSide := rfl
      rw [outcome_view, outcome_view, frame_target grammar d options .react .node, hside]
      cases (draftAll grammar ⟨d, options, Target.node.isServerSide⟩ (steps grammar d)).outcome with
      | error e =>
          rfl
      | ok drafts =>
          cases hframe : frame grammar d options .node with
          | error e =>
              rfl
          | ok w =>
              have hreact : (options.es6 || Target.react == Target.react) = true := Bool.or_true _
              have hnode : w.isNode = Target.node.isServerSide := (flags_of_frame hframe).1
              simp only [ok_bind, hreact, ← hnode]
              rfl
  | _ =>
      rfl

/-- The target of a view shows where it is meant to, and nowhere else.  The targets of clients have one
view; those of servers differ in one flag; and where a server has a view, a client has the same view
without the parameters that a proxy adds. -/
theorem views_of_targets (grammar : Grammar) (document : Value) (options : Options) :
    view grammar document options .angular = view grammar document options .custom ∧
      view grammar document options .typescript = view grammar document options .custom ∧
      (view grammar document options .react).outcome =
        (view grammar document options .node).outcome.map (fun v => { v with isES6 := true }) ∧
      ∀ vs, (view grammar document options .node).outcome = .ok vs →
        ∃ d, document = .map d ∧
          List.Forall₂
            (fun op m => m.parameters =
              (declaredParameters grammar ⟨d, options, true⟩ op).map (·.2) ++
                bodyParameters grammar ⟨d, options, true⟩ op)
            (retained grammar d) vs.methods ∧
          (view grammar document options .custom).outcome = .ok
            { vs with
              isNode := false
              methods := List.zipWith (narrow grammar ⟨d, options, true⟩) (retained grammar d)
                vs.methods } := by
  refine ⟨rfl, rfl, view_react grammar document options, ?_⟩
  intro vs hvs
  obtain ⟨d, drafts, w, rfl, hdrafts, hframe, rfl⟩ := view_eq_ok_iff.1 hvs
  obtain ⟨ops, hops, hmethods⟩ := exists_operations_of_draftAll hdrafts
  have hretained := operationsOf_steps hops
  subst hretained
  -- A client walks to the same operations and drafts their narrowed methods.
  have hclient := draftAll_of_methods hops (methods_client hmethods)
  have hlength := hmethods.length_eq
  refine ⟨d, rfl, parameters_of_drafts hmethods, view_eq_ok_iff.2 ?_⟩
  refine ⟨d, _, { w with isNode := false }, rfl, hclient, ?_, ?_⟩
  · have hflag : w.isES6 = (options.es6 || Target.custom == Target.react) := (flags_of_frame hframe).2
    rw [frame_target grammar d options .custom .node, hframe, ok_bind, ← hflag]
    rfl
  · rw [View.withMethods, View.withMethods, nameMethods_zipWith_narrow hlength,
      credentialsOf_zipWith_narrow hlength]

/-- An operation with a shared parameter that a proxy adds, one of its own, and a body. -/
def proxiedDocument : Entries :=
  [(.str "components", .object
      [("parameters", .object
        [("user", .object
          [("name", .str "X-User"), ("in", .str "header"), ("required", .bool true),
            ("x-proxy-header", .bool true)])])]),
    (.str "paths", .object
      [("/pets", .object
        [("post", .object
          [("parameters", .list
              [.object [("$ref", .str "#/components/parameters/user")],
                .object [("name", .str "limit"), ("in", .str "query")]]),
            ("requestBody", .object [("x-proxy-header", .bool true)])])])])]

/-- The names of the parameters of a method, and two of the flags that are derived from them. -/
def parameterSummary (m : Method) : List String × Bool × Bool :=
  (m.parameters.map (·.name), m.hasExtraHeader, m.allOptional)

theorem proxiedDocument_views_of_targets :
    ∃ vs, (view .openApi3 (.map proxiedDocument) {} .node).outcome = .ok vs ∧
      vs.methods.map parameterSummary = [(["X-User", "limit", "body"], true, false)] ∧
        ∃ vb, (view .openApi3 (.map proxiedDocument) {} .custom).outcome = .ok vb ∧
          vb.methods.map parameterSummary = [(["limit", "body"], false, true)] ∧
            vb = { vs with isNode := false, methods := vb.methods } := by
  have hserver : (view .openApi3 (.map proxiedDocument) {} .node).outcome.toOption.map
      (fun v => v.methods.map parameterSummary) = some [(["X-User", "limit", "body"], true, false)] := by
    decide +kernel
  have hclient : (view .openApi3 (.map proxiedDocument) {} .custom).outcome.toOption.map
      (fun v => v.methods.map parameterSummary) = some [(["limit", "body"], false, true)] := by
    decide +kernel
  obtain ⟨vs, hvs, hsummary⟩ := exists_ok_of_toOption_map hserver
  obtain ⟨vb, hvb, hsummary'⟩ := exists_ok_of_toOption_map hclient
  obtain ⟨d, _, _, hcustom⟩ := (views_of_targets .openApi3 (.map proxiedDocument) {}).2.2.2 vs hvs
  rw [hvb] at hcustom
  cases hcustom
  exact ⟨vs, hvs, hsummary, _, hvb, hsummary', rfl⟩

end Build
end ApiView
