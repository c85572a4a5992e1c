import ApiView.Proofs.Build.Surroundings

/-!
# Strictness — several content types are refused, and nothing else changes

A request is sent with one content type.  Where several are declared, a lenient build takes the first
and a strict build fails.  This file compares the two builds of one document:

* `Checks`: how a strict run stands to a lenient one, given when the run is clean;
* `Checks.bind`: runs are compared step by step;
* `declaredTypes`: the content types that an operation declares, counted with repetition;
* `strict_iff_clean`: a strict build has the view of the lenient one iff no retained operation declares
  several content types, and otherwise fails for that very reason.
-/

namespace ApiView

variable {α β : Type}

/-! ## Strict and lenient runs -/

/-- How a strict run stands to a lenient one: it fails with it, it has the same result if the run is
clean, and it refuses several content types if not. -/
def Checks (clean : Prop) (strict lenient : Except Failure α) : Prop :=
  match lenient with
  | .error _ => ∃ e, strict = .error e
  | .ok a =>
    (clean → strict = .ok a) ∧ (¬ clean → ∃ place types, strict = .error (.ambiguous place types))

namespace Checks

variable {clean clean' : Prop} {strict lenient : Except Failure α}

/-- A clean run of which nothing is checked. -/
theorem of_eq (run : Except Failure α) (hclean : clean) : Checks clean run run := by
  cases run with
  | error e =>
      exact ⟨e, rfl⟩
  | ok a =>
      exact ⟨fun _ => rfl, fun hnot => absurd hclean hnot⟩

theorem congr (h : Checks clean strict lenient) (hiff : clean ↔ clean') :
    Checks clean' strict lenient := by
  rwa [← propext hiff]

/-- A strict run that has a result has the one of the lenient run. -/
theorem lenient_eq_ok (h : Checks clean strict lenient) {a : α} :
    strict = .ok a → lenient = .ok a := by
  rintro rfl
  cases lenient with
  | error e =>
      rcases h with ⟨_, he⟩
      cases he
  | ok b =>
      by_cases hclean : clean
      · exact (h.1 hclean).symm
      · rcases h.2 hclean with ⟨_, _, hrefused⟩
        cases hrefused

/-- A chain is clean if each of its links is. -/
theorem bind {f g : α → Except Failure β} (h : Checks clean strict lenient)
    (hnext : ∀ a, lenient = .ok a → Checks clean' (f a) (g a)) :
    Checks (clean ∧ clean') (strict >>= f) (lenient >>= g) := by
  cases lenient with
  | error e =>
      rcases h with ⟨e', rfl⟩
      exact ⟨e', rfl⟩
  | ok a =>
      rcases h with ⟨hsame, hrefused⟩
      have hrest := hnext a rfl
      by_cases hclean : clean
      · -- The first link is clean, so all depends on the next one.
        rw [hsame hclean]
        exact hrest.congr ⟨fun h => ⟨hclean, h⟩, fun h => h.2⟩
      · rcases hrefused hclean with ⟨place, types, rfl⟩
        change Checks (clean ∧ clean') (.error (.ambiguous place types)) (g a)
        cases g a with
        | error e =>
            exact ⟨_, rfl⟩
        | ok b =>
            exact ⟨fun h => absurd h.1 hclean, fun _ => ⟨place, types, rfl⟩⟩

/-- A chain whose first link is not checked. -/
theorem bind_same {x : Except Failure α} {f g : α → Except Failure β}
    (hnext : ∀ a, x = .ok a → Checks clean (f a) (g a)) : Checks clean (x >>= f) (x >>= g) :=
  ((of_eq x trivial).bind hnext).congr (iff_of_eq (true_and _))

/-- A chain of which only the first link is checked. -/
theorem bind_rest {f : α → Except Failure β} (h : Checks clean strict lenient) :
    Checks clean (strict >>= f) (lenient >>= f) :=
  (h.bind fun a _ => of_eq (f a) trivial).congr (iff_of_eq (and_true _))

end Checks

/-! ## Content types -/

/-- What a value is iterated as, nothing if it cannot be iterated. -/
def Value.parts (v : Value) : List Value :=
  v.iterate.toOption.getD []

theorem Value.parts_of_not_truthy {v : Value} : ¬ v.truthy = true → v.parts = [] := by
  intro h
  cases v with
  | list vs =>
      simpa [truthy, parts, iterate, Except.toOption] using h
  | map entries =>
      simpa [truthy, parts, iterate, Except.toOption, Entries.keys] using h
  | set members =>
      simpa [truthy, parts, iterate, Except.toOption] using h
  | pair k v =>
      rfl
  | again isMap places =>
      rfl
  | scalar s =>
      cases s with
      | str s =>
          have hempty : s = "" := by
            simpa [truthy, Scalar.truthy] using h
          subst hempty
          rfl
      | bytes b =>
          simpa [truthy, Scalar.truthy, parts, iterate, Except.toOption] using h
      | _ =>
          rfl

/-- There is one text for every declared content type. -/
theorem length_of_contentTypeTexts {declared : Value} {texts : List String} :
    contentTypeTexts declared = .ok texts → texts.length = declared.parts.length := by
  intro h
  simp only [contentTypeTexts, displayedAll, bind_eq_ok_iff] at h
  rcases h with ⟨items, hitems, htexts⟩
  have hlength := (mapM_eq_ok_iff.1 htexts).length_eq
  simp [Value.parts, hitems, Except.toOption, hlength]

/-- Choosing a content type is clean if at most one is declared. -/
theorem chooseContentType_checks (place : String) (declared : Value) :
    Checks (declared.parts.length ≤ 1) (chooseContentType true place declared).outcome
      (chooseContentType false place declared).outcome := by
  simp only [chooseContentType, Traced.outcome_bind, Traced.outcome_lift]
  refine Checks.bind_same fun texts htexts => ?_
  rw [← length_of_contentTypeTexts htexts]
  cases texts with
  | nil =>
      exact Checks.of_eq _ (by simp)
  | cons first rest =>
      cases rest with
      | nil =>
          exact Checks.of_eq _ (by simp)
      | cons second rest =>
          refine ⟨fun hclean => ?_, fun _ => ⟨place, first :: second :: rest, rfl⟩⟩
          simp at hclean

namespace Build

/-! ## Methods -/

/-- A setup with strictness switched on or off. -/
def Setup.withStrict (setup : Setup) (strict : Bool) : Setup :=
  { setup with options := { setup.options with strictContentType := strict } }

section WithStrict

variable (setup : Setup) (strict : Bool)

@[simp]
theorem document_withStrict : (setup.withStrict strict).document = setup.document := rfl

/-- Strictness plays no part in assembling a method. -/
@[simp]
theorem assemble_withStrict (op : Operation) (draft : Draft) :
    assemble (setup.withStrict strict).options op draft = assemble setup.options op draft := rfl

/-- Strictness plays no part for references. -/
theorem refersLike_withStrict : (setup.withStrict strict).RefersLike setup :=
  fun _ _ => rfl

/-- Strictness plays no part in classifying parameters. -/
@[simp]
theorem classifyAll_withStrict (locationField : String) (nodes : List Value) :
    classifyAll (setup.withStrict strict) locationField nodes =
      classifyAll setup locationField nodes :=
  classifyAll_congr (refersLike_withStrict setup strict) rfl locationField nodes

@[simp]
theorem responses_withStrict (op : Operation) (produces : Value) :
    Swagger2.responses (setup.withStrict strict) op produces =
      Swagger2.responses setup op produces :=
  Swagger2.responses_congr (refersLike_withStrict setup strict) op produces

@[simp]
theorem contents_withStrict (op : Operation) :
    OpenApi3.responses (setup.withStrict strict) op = OpenApi3.responses setup op :=
  OpenApi3.responses_congr (refersLike_withStrict setup strict) op

end WithStrict

/-- The request content types that an operation declares: none in legacy documents, the items of its
own list or else of the document's, and the keys of the content map of its body. -/
def declaredTypes : Grammar → Entries → Operation → List Value
  | .legacy, _, _ => []
  | .swagger2, document, op =>
    ((op.node.member "consumes").orElse (document.member "consumes")).parts
  | .openApi3, document, op =>
    match Reference.deref (.map document) .requestBody (op.node.member "requestBody") with
    | .ok (.map body) => (Value.map (Body.content body)).parts
    | _ => []

/-- Strict headers check that one content type is consumed at most. -/
theorem headers_checks (op : Operation) (produces consumes : Value) :
    Checks (consumes.parts.length ≤ 1) (Swagger2.headers true op produces consumes).outcome
      (Swagger2.headers false op produces consumes).outcome := by
  simp only [Swagger2.headers, Traced.outcome_bind, Traced.outcome_lift]
  refine Checks.bind_same fun accept _ => Checks.bind_rest ?_
  unfold Swagger2.contentTypeHeader
  by_cases htruthy : consumes.truthy = true
  · simp only [htruthy, if_true, Traced.outcome_bind, Traced.outcome_lift]
    exact Checks.bind_same fun place _ => (chooseContentType_checks place consumes).bind_rest
  · simp only [htruthy]
    exact Checks.of_eq _ (by simp [Value.parts_of_not_truthy htruthy])

/-- A strict body checks that one content type is declared at most. -/
theorem body_checks (setup : Setup) (op : Operation) :
    Checks ((declaredTypes .openApi3 setup.document op).length ≤ 1)
      (OpenApi3.body (setup.withStrict true) op).outcome
      (OpenApi3.body (setup.withStrict false) op).outcome := by
  simp only [OpenApi3.body, Traced.outcome_bind, Traced.outcome_lift]
  refine Checks.bind_same fun node hnode => ?_
  have hderef : Reference.deref (.map setup.document) .requestBody (op.node.member "requestBody") =
      .ok node := hnode
  cases node with
  | map body =>
      simp only [declaredTypes, hderef, Traced.outcome_bind, Traced.outcome_lift]
      refine Checks.bind_same fun place _ => Checks.bind_rest ?_
      simp only [Body.parameter, Traced.outcome_bind]
      exact (chooseContentType_checks place (.map (Body.content body))).bind_rest
  | _ =>
      exact Checks.of_eq _ (by simp [declaredTypes, hderef])

/-- A method is built cleanly if its operation declares at most one content type. -/
theorem method_checks (grammar : Grammar) (setup : Setup) (op : Operation) :
    Checks ((declaredTypes grammar setup.document op).length ≤ 1)
      (method grammar (setup.withStrict true) op).outcome
      (method grammar (setup.withStrict false) op).outcome := by
  cases grammar with
  | legacy =>
      simp only [method, Legacy.method, classifyAll_withStrict, assemble_withStrict,
        document_withStrict]
      exact Checks.of_eq _ (by simp [declaredTypes])
  | swagger2 =>
      simp only [method, Swagger2.method, classifyAll_withStrict, responses_withStrict,
        assemble_withStrict, document_withStrict, Traced.outcome_bind, Traced.outcome_lift]
      refine Checks.bind_same fun credentials _ => Checks.bind_same fun name _ => ?_
      exact (headers_checks op _ _).bind_rest
  | openApi3 =>
      simp only [method, OpenApi3.method, classifyAll_withStrict, contents_withStrict,
        assemble_withStrict, document_withStrict, Traced.outcome_bind, Traced.outcome_lift]
      refine Checks.bind_same fun credentials _ => Checks.bind_same fun name _ => ?_
      refine Checks.bind_same fun parameters _ => Checks.bind_same fun responses _ => ?_
      exact (body_checks setup op).bind_rest

/-! ## Walks -/

/-- A walk is clean if each of its operations declares at most one content type. -/
theorem draftAll_checks (grammar : Grammar) (setup : Setup) (steps : List Step) :
    Checks (∀ op, .visit op ∈ steps → (declaredTypes grammar setup.document op).length ≤ 1)
      (draftAll grammar (setup.withStrict true) steps).outcome
      (draftAll grammar (setup.withStrict false) steps).outcome := by
  induction steps with
  | nil =>
      exact Checks.of_eq _ (by simp)
  | cons step rest ih =>
      cases step with
      | visit op =>
          simp only [draftAll, Traced.outcome_bind]
          refine ((method_checks grammar setup op).bind fun m _ => ih.bind_rest).congr ?_
          simp
      | skip line =>
          simp only [draftAll, Traced.outcome_bind]
          refine Checks.bind_same fun _ _ => ih.congr ?_
          simp
      | broken e =>
          exact ⟨e, rfl⟩

/-- The operations of a walk are those that it visits. -/
theorem mem_operationsOf_iff {steps : List Step} {ops : List Operation} {op : Operation} :
    operationsOf steps = .ok ops → (op ∈ ops ↔ .visit op ∈ steps) := by
  intro h
  induction steps generalizing ops with
  | nil =>
      cases h
      simp
  | cons step rest ih =>
      cases step with
      | visit op' =>
          simp only [operationsOf, bind_eq_ok_iff, pure_eq_ok_iff] at h
          rcases h with ⟨ops', hops', rfl⟩
          simp [ih hops']
      | skip line =>
          simpa using ih h
      | broken e =>
          cases h

/-! ## Views -/

/-- A strict view checks that every operation declares one content type at most. -/
theorem view_checks (grammar : Grammar) (document : Entries) (options : Options) (target : Target) :
    Checks (∀ op, .visit op ∈ steps grammar document → (declaredTypes grammar document op).length ≤ 1)
      (view grammar (.map document) { options with strictContentType := true } target).outcome
      (view grammar (.map document) { options with strictContentType := false } target).outcome := by
  simp only [view, Traced.outcome_bind, Traced.outcome_lift]
  refine Checks.bind_same fun entries hentries => ?_
  cases hentries
  exact (draftAll_checks grammar ⟨document, options, target.isServerSide⟩ _).bind_rest

end Build

/-- Completing options leaves strictness as it is. -/
theorem checkOptions_strict (document : Value) (options : Options) (strict : Bool) :
    (checkOptions document { options with strictContentType := strict }).outcome =
      (checkOptions document options).outcome.map fun completed =>
        { completed with strictContentType := strict } := by
  unfold checkOptions
  by_cases hdocument : document.truthy = true
  · by_cases hmultiple : options.multiple = true
    · by_cases hclass : (options.className.getD "").isEmpty = true
      · simp [hdocument, hmultiple, hclass, Except.map]
      · by_cases hpath : (options.path.getD "").isEmpty = true
        · simp [hdocument, hmultiple, hclass, hpath, Except.map]
        · simp only [hdocument, hmultiple, hclass, hpath, Bool.not_true, Bool.false_eq_true, if_false,
            Traced.outcome_bind]
          cases (withDefaultDir "Controllers" defaultControllersDir options.controllersDir).outcome <;>
            cases (withDefaultDir "Definitions" defaultDefinitionsDir options.definitionsDir).outcome <;>
              rfl
    · simp [hdocument, hmultiple, Except.map]
  · simp [hdocument, Except.map]

/-- Each operation that a document is walked for, in its grammar, declares at most one content type. -/
def Build.DeclaresOne (document : Value) : Prop :=
  ∀ grammar entries, document = .map entries → Grammar.detect document = .ok grammar →
    ∀ op, .visit op ∈ steps grammar entries → (declaredTypes grammar entries op).length ≤ 1

/-- A strict view of any document checks the same. -/
theorem buildView_checks (document target : Value) (options : Options) :
    Checks (Build.DeclaresOne document)
      (buildView document { options with strictContentType := true } target).outcome
      (buildView document { options with strictContentType := false } target).outcome := by
  simp only [buildView, Traced.outcome_bind, Traced.outcome_lift, checkOptions_strict, map_bind]
  refine Checks.bind_same fun completed _ => Checks.bind_same fun parsed _ => ?_
  refine Checks.bind_same fun grammar hgrammar => ?_
  -- One target has no legacy documents, whether the run is strict or not.
  by_cases hlegacy : (parsed == .typescript && grammar == .legacy) = true
  · simp only [hlegacy, if_true]
    exact ⟨_, rfl⟩
  · simp only [hlegacy, Bool.false_eq_true, if_false, Traced.outcome_bind]
    refine Checks.bind_same fun _ _ => ?_
    cases document with
    | map entries =>
        refine (Build.view_checks grammar entries completed parsed).congr ?_
        constructor
        · intro hclean grammar' entries' hentries hgrammar'
          cases hentries
          rw [hgrammar] at hgrammar'
          cases hgrammar'
          exact hclean
        · intro hclean
          exact hclean grammar entries rfl hgrammar
    | _ =>
        exact ⟨_, rfl⟩

/-- A document of which a view is built is a mapping in a known grammar. -/
theorem exists_grammar_of_buildView {document target : Value} {options : Options} {v : View} :
    (buildView document options target).outcome = .ok v →
      ∃ grammar completed parsed, Grammar.detect document = .ok grammar ∧
        (Build.view grammar document completed parsed).outcome = .ok v := by
  intro h
  simp only [buildView, Traced.outcome_bind, Traced.outcome_lift, bind_eq_ok_iff] at h
  rcases h with ⟨completed, _, parsed, _, grammar, hgrammar, h⟩
  refine ⟨grammar, completed, parsed, hgrammar, ?_⟩
  split at h
  · cases h
  · simp only [Traced.outcome_bind, bind_eq_ok_iff] at h
    rcases h with ⟨_, _, hview⟩
    exact hview

/-- Strictness about content types is a check and nothing else.  A strict build that has a view has the
view of the lenient build, and fails where the lenient build fails.  Where the lenient build has a view,
the strict build has it too if every retained operation declares at most one request content type, and
otherwise refuses several content types. -/
theorem strict_iff_clean (document target : Value) (options : Options) :
    (∀ v, (buildView document { options with strictContentType := true } target).outcome = .ok v →
        (buildView document { options with strictContentType := false } target).outcome = .ok v) ∧
      (∀ e, (buildView document { options with strictContentType := false } target).outcome = .error e →
        ∃ e', (buildView document { options with strictContentType := true } target).outcome =
          .error e') ∧
      ∀ v, (buildView document { options with strictContentType := false } target).outcome = .ok v →
        ∃ grammar entries, document = .map entries ∧ Grammar.detect document = .ok grammar ∧
          ((∀ op ∈ Build.retained grammar entries,
              (Build.declaredTypes grammar entries op).length ≤ 1) →
            (buildView document { options with strictContentType := true } target).outcome = .ok v) ∧
          ((∃ op ∈ Build.retained grammar entries,
              1 < (Build.declaredTypes grammar entries op).length) →
            ∃ place types,
              (buildView document { options with strictContentType := true } target).outcome =
                .error (.ambiguous place types)) := by
  have hchecks := buildView_checks document target options
  refine ⟨?_, ?_, ?_⟩
  · intro v hstrict
    exact hchecks.lenient_eq_ok hstrict
  · intro e hlenient
    rw [hlenient] at hchecks
    exact hchecks
  · intro v hlenient
    rw [hlenient] at hchecks
    rcases exists_grammar_of_buildView hlenient with ⟨grammar, completed, parsed, hgrammar, hview⟩
    rcases Build.viewed_of_view hview with ⟨entries, drafts, hdocument, hv⟩
    rcases Build.exists_operations_of_draftAll hv.walk with ⟨ops, hops, _⟩
    -- A build that succeeds has visited just the operations that are retained.
    have hmem : ∀ op, op ∈ Build.retained grammar entries ↔ .visit op ∈ Build.steps grammar entries := by
      intro op
      rw [← Build.operationsOf_steps hops]
      exact Build.mem_operationsOf_iff hops
    refine ⟨grammar, entries, hdocument, hgrammar, ?_, ?_⟩
    · intro hclean
      -- What holds of the grammar that was found holds of every grammar that can be found.
      refine hchecks.1 ?_
      intro grammar' entries' hentries hgrammar' op hop
      rw [hdocument] at hentries
      cases hentries
      rw [hgrammar] at hgrammar'
      cases hgrammar'
      exact hclean op ((hmem op).2 hop)
    · rintro ⟨op, hop, hseveral⟩
      refine hchecks.2 ?_
      intro hclean
      have hone := hclean grammar entries hdocument hgrammar op ((hmem op).1 hop)
      omega

/-- A document with one operation, which declares content types. -/
def consumingDocument (types : List Value) : Entries :=
  [(.str "swagger", .str "2.0"), (.str "consumes", .list types),
    (.str "paths", .object [("/pets", .object [("post", .object [])])])]

/-- One content type is accepted, and refused if it is declared twice. -/
theorem consumingDocument_strict_iff_clean :
    (∃ v, (buildView (.map (consumingDocument [.str "text/csv"]))
        { strictContentType := true } (.str "custom")).outcome = .ok v) ∧
      ∃ place types, (buildView (.map (consumingDocument [.str "text/csv", .str "text/csv"]))
        { strictContentType := true } (.str "custom")).outcome = .error (.ambiguous place types) := by
  have honce : (buildView (.map (consumingDocument [.str "text/csv"])) {}
      (.str "custom")).outcome.toOption.map (·.grammar) = some .swagger2 := by
    decide +kernel
  have htwice : (buildView (.map (consumingDocument [.str "text/csv", .str "text/csv"])) {}
      (.str "custom")).outcome.toOption.map (·.grammar) = some .swagger2 := by
    decide +kernel
  constructor
  · rcases exists_ok_of_toOption_map honce with ⟨v, hv, _⟩
    rcases (strict_iff_clean _ _ {}).2.2 v hv with ⟨grammar, entries, hentries, hgrammar, hclean, _⟩
    cases hentries
    cases hgrammar
    exact ⟨v, hclean (by decide +kernel)⟩
  · rcases exists_ok_of_toOption_map htwice with ⟨v, hv, _⟩
    rcases (strict_iff_clean _ _ {}).2.2 v hv with ⟨grammar, entries, hentries, hgrammar, _, hrefused⟩
    cases hentries
    cases hgrammar
    exact hrefused (by decide +kernel)

end ApiView
