import ApiView.Proofs.Build.MethodNames

/-!
# Credentials — which families of credentials a view asks for

The requirements of an operation name schemes, and the table of schemes says what kind each of them is.
The flags of a method are read off the two once, and the listed schemes are read off the table again;
this file shows that all of it agrees:

* `Security.Demands`: a list of requirements names a scheme of a kind;
* `Security.requiredCredentials_has_iff`: the flags of an operation;
* `Security.exists_scheme_of_demands`: the listed schemes;
* `Build.effectiveList`, `Build.Asks`: the requirements that apply to an operation, by its grammar;
* `credentials_iff_asks`: the flags of the methods and of the view.
-/

namespace ApiView

/-- Whether a family is among those that apply. -/
def Credentials.has (c : Credentials) : Credential → Bool
  | .token => c.token
  | .apiKey => c.apiKey
  | .basic => c.basic

/-- A family applies on either side of a union. -/
@[simp]
theorem Credentials.has_union (a b : Credentials) (kind : Credential) :
    (a.union b).has kind = (a.has kind || b.has kind) := by
  cases kind <;> rfl

@[simp]
theorem Credentials.has_none (kind : Credential) : ({} : Credentials).has kind = false := by
  cases kind <;> rfl

namespace Security

/-! ## Flags of an operation -/

/-- A list of requirements names a scheme that a table has an object of some kind for. -/
def Demands (table : Entries) (requirements : List Value) (kind : Credential) (name : Scalar) : Prop :=
  (∃ requirement, .map requirement ∈ requirements ∧ name ∈ Entries.keys requirement) ∧
    ∃ scheme, Entries.find? name table = some (.map scheme) ∧ credentialOf? scheme = .ok (some kind)

/-- The names that are required are the keys of the requirements. -/
theorem mem_requiredNames_iff {requirements : List Value} {name : Scalar} :
    name ∈ requiredNames requirements ↔
      ∃ requirement, .map requirement ∈ requirements ∧ name ∈ Entries.keys requirement := by
  unfold requiredNames
  rw [List.mem_flatMap]
  constructor
  · rintro ⟨v, hv, hname⟩
    cases v with
    | map requirement =>
        exact ⟨requirement, hv, hname⟩
    | _ =>
        cases hname
  · rintro ⟨requirement, hmem, hname⟩
    exact ⟨.map requirement, hmem, hname⟩

/-- Only a list has requirements in it, whatever else can be iterated. -/
theorem requiredNames_iterate {v : Value} {items : List Value} :
    v.iterate = .ok items → requiredNames items = requiredNames (v.items?.getD []) := by
  intro h
  rcases Value.iterate_eq_ok h with hitems | ⟨hnone, leaves, rfl⟩
  · rw [hitems]
    rfl
  · rw [hnone, requiredNames, List.flatMap_map]
    exact List.flatMap_eq_nil_iff.2 fun _ _ => rfl

/-- The list of requirements that applies to an operation. -/
def applicable (ofDocument ofOperation : Value) : List Value :=
  (if ofOperation.isNull then ofDocument else ofOperation).items?.getD []

/-- The requirements in effect ask for the names of those that apply. -/
theorem requiredNames_effectiveRequirements {ofDocument ofOperation : Value} {items : List Value} :
    effectiveRequirements ofDocument ofOperation = .ok items →
      requiredNames items = requiredNames (applicable ofDocument ofOperation) := by
  intro h
  unfold effectiveRequirements at h
  unfold applicable
  by_cases hnull : ofOperation.isNull = true
  · simp only [hnull, Bool.not_true, if_true] at h ⊢
    by_cases htruthy : ofDocument.truthy = true
    · simp only [htruthy, if_true] at h
      exact requiredNames_iterate h
    · simp only [htruthy] at h
      cases h
      rw [Value.items?_of_not_truthy htruthy]
  · simp only [hnull] at h ⊢
    exact requiredNames_iterate h

/-- A name asks for a family if its scheme is one of that family. -/
theorem credentialNamed?_eq_some_iff {table : Entries} {name : Scalar} {kind : Credential} :
    credentialNamed? table name = .ok (some kind) ↔
      ∃ scheme, Entries.find? name table = some (.map scheme) ∧
        credentialOf? scheme = .ok (some kind) := by
  unfold credentialNamed?
  cases hfind : Entries.find? name table with
  | none =>
      simp [pure_eq_ok_iff]
  | some v =>
      cases v <;> simp [Value.entries?, pure_eq_ok_iff]

/-- The flags of an operation are the kinds that its requirements name a scheme of. -/
theorem requiredCredentials_has_iff {schemes ofDocument ofOperation : Value} {c : Credentials}
    {kind : Credential} :
    requiredCredentials schemes ofDocument ofOperation = .ok c →
      (c.has kind = true ↔ ∃ name, Demands (schemes.entries?.getD [])
        (applicable ofDocument ofOperation) kind name) := by
  intro h
  -- The flags are read off the kinds of the required names, so the two are compared name by name.
  simp only [Demands, ← mem_requiredNames_iff]
  unfold requiredCredentials at h
  by_cases htruthy : schemes.truthy = true
  · simp only [htruthy, Bool.not_true, Bool.false_eq_true, if_false, bind_eq_ok_iff] at h
    rcases h with ⟨requirements, hrequirements, h⟩
    rw [← requiredNames_effectiveRequirements hrequirements]
    by_cases hempty : (requiredNames requirements).isEmpty = true
    · simp only [hempty, if_true, pure_eq_ok_iff] at h
      subst h
      simp [List.isEmpty_iff.1 hempty]
    · simp only [hempty, Bool.false_eq_true, if_false, bind_eq_ok_iff, pure_eq_ok_iff] at h
      rcases h with ⟨table, htable, kinds, hkinds, rfl⟩
      have hschemes : schemes.entries?.getD [] = table := by
        cases schemes <;> cases htable
        rfl
      rw [hschemes]
      simp only [← credentialNamed?_eq_some_iff]
      have hmem : some kind ∈ kinds ↔
          ∃ name ∈ requiredNames requirements, credentialNamed? table name = .ok (some kind) :=
        mem_of_mapM_iff hkinds
      rw [← hmem]
      cases kind <;> simp [Credentials.has]
  · -- A missing table has no schemes, whatever is required.
    simp only [htruthy] at h
    cases h
    rw [Value.entries?_of_not_truthy htruthy]
    simp [Entries.find?]

/-! ## Listed schemes -/

/-- A scheme is read with its own name and family. -/
theorem of_readScheme {key : Scalar} {kind : Credential} {raw : Entries} {scheme : Scheme} :
    readScheme key kind raw = .ok scheme → key.Spells scheme.name ∧ scheme.kind = kind := by
  intro h
  simp only [readScheme, accept_eq_ok_iff, List.append_eq_nil_iff] at h
  rcases h with ⟨⟨⟨⟨hname, _⟩, _⟩, _⟩, rfl⟩
  rcases Value.fieldText?_of_textProblems hname with ⟨text, htext⟩
  refine ⟨?_, rfl⟩
  simpa [htext] using Scalar.spells_of_fieldText? htext

/-- Every member of a table that is a scheme of a known kind is listed. -/
theorem exists_scheme_of_readMembers {key : Scalar} {raw : Entries} {kind : Credential} :
    ∀ {members : Entries} {schemes : List Scheme},
      (readMembers members).outcome = .ok schemes → (key, .map raw) ∈ members →
        credentialOf? raw = .ok (some kind) →
          ∃ scheme ∈ schemes, key.Spells scheme.name ∧ scheme.kind = kind := by
  intro members
  induction members with
  | nil =>
      intro schemes _ hmem
      cases hmem
  | cons member rest ih =>
      intro schemes h hmem hkind
      rcases member with ⟨key', v⟩
      cases v with
      | map raw' =>
          simp only [readMembers, Traced.outcome_bind, Traced.outcome_lift, bind_eq_ok_iff] at h
          rcases h with ⟨kind', hkind', h⟩
          -- A member of an unknown kind is skipped, but the one in question has a kind.
          cases kind' with
          | none =>
              simp only [Traced.outcome_bind, Traced.outcome_note, bind_eq_ok_iff] at h
              rcases h with ⟨_, _, hrest⟩
              rcases List.mem_cons.1 hmem with heq | hmem'
              · cases heq
                rw [hkind'] at hkind
                cases hkind
              · exact ih hrest hmem' hkind
          | some kind' =>
              simp only [Traced.outcome_bind, Traced.outcome_lift, Traced.outcome_pure,
                bind_eq_ok_iff, Except.ok.injEq] at h
              rcases h with ⟨scheme, hscheme, others, hrest, rfl⟩
              rcases List.mem_cons.1 hmem with heq | hmem'
              · cases heq
                rw [hkind'] at hkind
                cases hkind
                exact ⟨scheme, List.mem_cons_self .., of_readScheme hscheme⟩
              · rcases ih hrest hmem' hkind with ⟨found, hfound, hspells⟩
                exact ⟨found, List.mem_cons_of_mem _ hfound, hspells⟩
      | _ =>
          rcases List.mem_cons.1 hmem with heq | hmem'
          · cases heq
          · exact ih h hmem' hkind

/-- A scheme that a requirement names is listed, under that name and with that kind. -/
theorem exists_scheme_of_demands {table : Value} {schemes : List Scheme} {requirements : List Value}
    {kind : Credential} {name : Scalar} (h : (readSchemes table).outcome = .ok schemes)
    (hdemands : Demands (table.entries?.getD []) requirements kind name) :
    ∃ scheme ∈ schemes, name.Spells scheme.name ∧ scheme.kind = kind := by
  rcases hdemands.2 with ⟨raw, hfind, hkind⟩
  have htruthy : table.truthy = true := by
    by_contra habsent
    rw [Value.entries?_of_not_truthy habsent] at hfind
    cases hfind
  simp only [readSchemes, htruthy, if_true, Traced.outcome_bind, Traced.outcome_lift,
    bind_eq_ok_iff] at h
  rcases h with ⟨members, hmembers, h⟩
  have htable : table = .map members := by
    cases table <;> cases hmembers
    rfl
  subst htable
  rcases Entries.exists_mem_of_find? hfind with ⟨key, hmem, hsame⟩
  rcases exists_scheme_of_readMembers h hmem hkind with ⟨scheme, hscheme, hspells, hkind'⟩
  -- The key in the table and the name agree as values; since one is a text, they are one.
  have hkey : name = key := Scalar.eq_of_same_of_spells hsame hspells
  exact ⟨scheme, hscheme, hkey ▸ hspells, hkind'⟩

end Security

namespace Build

variable {grammar : Grammar} {document : Entries}

/-! ## Flags of a view -/

/-- The list of requirements that applies to an operation: its own unless that is null, and the
document's otherwise; in legacy documents only its own authorizations. -/
def effectiveList : Grammar → Entries → Entries → List Value
  | .legacy, _, node => [node.member "authorizations"]
  | .swagger2, document, node | .openApi3, document, node =>
    Security.applicable (document.member "security") (node.member "security")

/-- An operation asks for a kind of credentials by the name of a scheme. -/
def Asks (grammar : Grammar) (document node : Entries) (kind : Credential) (name : Scalar) : Prop :=
  Security.Demands ((securityTable grammar document).entries?.getD [])
    (effectiveList grammar document node) kind name

/-- A node asks for a family if the requirements that apply to it demand it. -/
theorem asks_iff_demands {node : Entries} {kind : Credential} {name : Scalar} :
    Asks grammar document node kind name ↔
      Security.Demands ((securityTable grammar document).entries?.getD [])
        (Security.applicable (sharedRequirements grammar document) (ownRequirements grammar node))
        kind name := by
  cases grammar with
  | legacy =>
      cases hown : node.member "authorizations" <;>
        simp [Asks, effectiveList, Security.Demands, Security.applicable, sharedRequirements,
          ownRequirements, Legacy.requirements, Value.isMap, Value.isNull, Value.null, Value.items?,
          hown]
  | swagger2 =>
      exact Iff.rfl
  | openApi3 =>
      exact Iff.rfl

/-- An operation that asks for anything mentions security. -/
theorem mentionsSecurity_of_asks {node : Entries} {kind : Credential} {name : Scalar} :
    Asks grammar document node kind name → mentionsSecurity grammar document node = true := by
  intro h
  rcases h.1 with ⟨requirement, hmem, hname⟩
  -- Null is no list, so one of the two places has to hold something.
  have hlisted : ∀ v w : Value, .map requirement ∈ Security.applicable v w → v ≠ .null ∨ w ≠ .null := by
    intro v w hvw
    by_contra hnull
    push Not at hnull
    rw [hnull.1, hnull.2] at hvw
    cases hvw
  have hpresent : .map requirement ∈
        Security.applicable (document.member "security") (node.member "security") →
      (document.hasMember "security" || node.hasMember "security") = true := by
    intro happlicable
    rw [Bool.or_eq_true]
    exact (hlisted _ _ happlicable).imp Entries.hasMember_of_member_ne Entries.hasMember_of_member_ne
  cases grammar with
  | legacy =>
      have hown : node.member "authorizations" = .map requirement := (List.mem_singleton.1 hmem).symm
      cases requirement with
      | nil =>
          cases hname
      | cons entry rest =>
          simp [mentionsSecurity, hown, Value.truthy]
  | swagger2 =>
      exact hpresent hmem
  | openApi3 =>
      exact hpresent hmem

/-- The families of a view are those of its methods. -/
theorem credentialsOf_has_iff {methods : List Method} {kind : Credential} :
    (credentialsOf methods).has kind = true ↔ ∃ m ∈ methods, m.credentials.has kind = true := by
  -- The fold starts anywhere, as its start changes from step to step.
  have hfold : ∀ c : Credentials,
      (methods.foldl (fun c m => c.union m.credentials) c).has kind =
        (c.has kind || methods.any fun m => m.credentials.has kind) := by
    induction methods with
    | nil =>
        intro c
        simp
    | cons m rest ih =>
        intro c
        simp [ih, Bool.or_assoc]
  unfold credentialsOf
  rw [hfold, Credentials.has_none, Bool.false_or, List.any_eq_true]

/-- Naming methods changes no credentials. -/
theorem credentialsOf_nameMethods (drafts : List Method) :
    credentialsOf (nameMethods drafts) = credentialsOf drafts :=
  credentialsOf_congr (map_nameMethods drafts fun _ _ => rfl)

/-- The flags that a method has, and what each of them comes with: the method and the view are secure,
and the view lists a scheme of that name and kind. -/
structure Secured (grammar : Grammar) (document : Entries) (v : View) (op : Operation) (m : Method) :
    Prop where
  represents : Represents grammar op m
  flags : ∀ kind, m.credentials.has kind = true ↔ ∃ name, Asks grammar document op.node kind name
  isSecure : ∀ kind, m.credentials.has kind = true → m.isSecure = true ∧ v.isSecure = true
  listed : ∀ kind, m.credentials.has kind = true →
    ∃ name, Asks grammar document op.node kind name ∧
      ∃ scheme ∈ v.schemes, name.Spells scheme.name ∧ scheme.kind = kind

/-- The flags of every method are the kinds of the schemes that its operation asks for, each with a
listed scheme behind it, and the flags of the view are those of its methods. -/
theorem credentials_iff_asks {source : Value} {options : Options} {target : Target} {v : View}
    (h : (view grammar source options target).outcome = .ok v) :
    ∃ document, source = .map document ∧
      List.Forall₂ (Secured grammar document v) (retained grammar document) v.methods ∧
        ∀ kind, v.credentials.has kind = true ↔ ∃ m ∈ v.methods, m.credentials.has kind = true := by
  rcases viewed_of_view h with ⟨document, drafts, hsource, hv⟩
  refine ⟨document, hsource, hv.methods_forall₂.imp ?_, ?_⟩
  · rintro op m ⟨draft, hdraft, hm, hname⟩
    rcases exists_draft_of_method hdraft with ⟨d, hd, hassemble⟩
    have hassembled := assembled_of_assemble hassemble
    -- Naming changes no credentials, so those of the draft count.
    have hflags : ∀ kind, m.credentials.has kind = true ↔
        ∃ name, Asks grammar document op.node kind name := by
      intro kind
      rw [hm]
      simp only [asks_iff_demands, hassembled.credentials]
      exact Security.requiredCredentials_has_iff hd.credentials
    refine ⟨represents_of_method hdraft hm hname, hflags, ?_, ?_⟩
    · intro kind hkind
      rcases (hflags kind).1 hkind with ⟨name, hasks⟩
      constructor
      · rw [hm]
        simp only [hassembled.isSecure, hd.isSecure]
        exact mentionsSecurity_of_asks hasks
      · rcases hasks.2 with ⟨scheme, hfind, _⟩
        -- A scheme that is found makes the table of schemes one that is there.
        rw [hv.isSecure]
        cases htable : securityTable grammar document with
        | map members =>
            rfl
        | _ =>
            rw [htable] at hfind
            cases hfind
    · intro kind hkind
      rcases (hflags kind).1 hkind with ⟨name, hasks⟩
      exact ⟨name, hasks, Security.exists_scheme_of_demands hv.schemes hasks⟩
  · intro kind
    rw [hv.credentials, hv.methods, ← credentialsOf_nameMethods, credentialsOf_has_iff]

/-- Requirements of the document, in place of them, and none at all. -/
def guardedDocument : Entries :=
  [(.str "securityDefinitions", .object
    [("auth", .object [("type", .str "oauth2")]),
     ("key", .object [("type", .str "apiKey"), ("name", .str "X-Key"), ("in", .str "header")]),
     ("other", .object [("type", .str "mutualTLS")])]),
   (.str "security", .list [.object [("auth", .list [])]]),
   (.str "paths", .object
    [("/pets", .object
      [("get", .object []),
       ("post", .object [("security", .list
         [.object [("other", .list [])], .object [("key", .list []), ("unknown", .list [])]])]),
       ("put", .object [("security", .list [])])])])]

theorem guardedDocument_credentials_iff_asks :
    ∃ v, (view .swagger2 (.map guardedDocument) {} .node).outcome = .ok v ∧
      v.methods.map (·.credentials) =
        [{ token := true }, { apiKey := true }, {}] ∧
        ∃ document, Value.map guardedDocument = .map document ∧
          List.Forall₂ (Secured .swagger2 document v) (retained .swagger2 document) v.methods ∧
            ∀ kind, v.credentials.has kind = true ↔
              ∃ m ∈ v.methods, m.credentials.has kind = true := by
  have hrun : ((view .swagger2 (.map guardedDocument) {} .node).outcome.toOption.map
      fun v => v.methods.map (·.credentials)) = some [{ token := true }, { apiKey := true }, {}] := by
    decide +kernel
  rcases exists_ok_of_toOption_map hrun with ⟨v, hv, hcredentials⟩
  exact ⟨v, hv, hcredentials, credentials_iff_asks hv⟩

end Build
end ApiView
