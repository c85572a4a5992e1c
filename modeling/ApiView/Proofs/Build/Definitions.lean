import ApiView.Proofs.Build.Surroundings
import ApiView.Proofs.Reference.Tables
import ApiView.Proofs.Schema.Named

/-!
# Definitions — the named types of a view

A reference in a schema becomes a name in its type, and a named schema of the document becomes a
definition.  Types are written without a look at the document, so the two need not meet:

* `namedSchemas`, `definitionsOf_eq`: the schemas that are defined, one by one;
* `Defines`, `exists_definition_iff`: which names have a definition;
* `definitionsPath`, `exists_definition_of_resolve`: a pointer into the table of named schemas has one
  if it resolves;
* `NamesDefinition`, `references_name_definitions`: what holds of each reference that is named;
* `danglingDocument_undefined`: a type that names nothing.
-/

namespace ApiView
namespace Build

open TypeText (typeText Names Within)

variable {grammar : Grammar} {d table : Entries} {definitions : List Definition}

/-! ## Named schemas -/

/-- The schemas of a table under their names; entries that are no mappings are left out. -/
def namedSchemas (table : Entries) : List (Scalar × Entries) :=
  table.filterMap fun (name, v) => v.entries?.map fun schema => (name, schema)

theorem mem_namedSchemas_iff {name : Scalar} {schema : Entries} :
    (name, schema) ∈ namedSchemas table ↔ (name, .map schema) ∈ table := by
  unfold namedSchemas
  rw [List.mem_filterMap]
  constructor
  · rintro ⟨⟨name', v⟩, hmem, hentry⟩
    obtain ⟨schema', hv, heq⟩ := Option.map_eq_some_iff.1 hentry
    cases heq
    rwa [← Value.entries?_eq_some_iff.1 hv]
  · intro hmem
    exact ⟨(name, .map schema), hmem, rfl⟩

/-- Named schemas are defined one by one. -/
theorem definitionsOf_eq (table : Entries) :
    definitionsOf table =
      (namedSchemas table).mapM fun (name, schema) => definitionOf name schema := by
  induction table with
  | nil =>
      rfl
  | cons entry rest ih =>
      obtain ⟨name, v⟩ := entry
      cases v with
      | map schema =>
          have hcons : namedSchemas ((name, .map schema) :: rest) =
              (name, schema) :: namedSchemas rest := rfl
          rw [hcons, List.mapM_cons, definitionsOf, ih]
      | _ =>
          exact ih

/-! ## Names with a definition -/

/-- A definition has the name and the type of a named schema. -/
structure Defines (definition : Definition) (name : Scalar) (schema : Entries) : Prop where
  name : name.Spells definition.name
  type : typeText (.map schema) = .ok definition.type

/-- A definition has the name and the type of its schema. -/
theorem defines_of_definitionOf {name : Scalar} {schema : Entries} {definition : Definition} :
    definitionOf name schema = .ok definition → Defines definition name schema := by
  intro h
  simp only [definitionOf, bind_eq_ok_iff, accept_eq_ok_iff, List.append_eq_nil_iff] at h
  obtain ⟨type, htype, ⟨⟨hname, _⟩, _⟩, rfl⟩ := h
  obtain ⟨text, htext⟩ := Value.fieldText?_of_textProblems hname
  refine ⟨?_, htype⟩
  simpa [htext] using Scalar.spells_of_fieldText? htext

/-- A definition stands for a schema of the table, and each of these has a definition. -/
theorem defines_of_definitionsOf (h : definitionsOf table = .ok definitions) :
    (∀ definition ∈ definitions, ∃ name schema, (name, .map schema) ∈ table ∧
        Defines definition name schema) ∧
      ∀ name schema, (name, .map schema) ∈ table →
        ∃ definition ∈ definitions, Defines definition name schema := by
  rw [definitionsOf_eq, mapM_eq_ok_iff] at h
  constructor
  · intro definition hdefinition
    obtain ⟨⟨name, schema⟩, hmem, hread⟩ := exists_match h.flip hdefinition
    exact ⟨name, schema, mem_namedSchemas_iff.1 hmem, defines_of_definitionOf hread⟩
  · intro name schema hmem
    obtain ⟨definition, hdefinition, hread⟩ := exists_match h (mem_namedSchemas_iff.2 hmem)
    exact ⟨definition, hdefinition, defines_of_definitionOf hread⟩

/-- A name has a definition iff the table has a schema under it. -/
theorem exists_definition_iff (h : definitionsOf table = .ok definitions) (name : String) :
    (∃ definition ∈ definitions, definition.name = name) ↔
      ∃ key schema, (key, .map schema) ∈ table ∧ key.Spells name := by
  obtain ⟨hstands, hdefined⟩ := defines_of_definitionsOf h
  constructor
  · rintro ⟨definition, hmem, rfl⟩
    obtain ⟨key, schema, hentry, hdefines⟩ := hstands definition hmem
    exact ⟨key, schema, hentry, hdefines.name⟩
  · rintro ⟨key, schema, hentry, hspells⟩
    obtain ⟨definition, hmem, hdefines⟩ := hdefined key schema hentry
    exact ⟨definition, hmem, Scalar.eq_of_spells hdefines.name hspells⟩

/-- Every named schema of a table has a definition. -/
theorem exists_definition_of_member? (h : definitionsOf table = .ok definitions) {name : String}
    {schema : Entries} :
    table.member? name = some (.map schema) →
      ∃ definition ∈ definitions, definition.name = name ∧
        typeText (.map schema) = .ok definition.type := by
  intro hmember
  obtain ⟨key, hmem, hsame⟩ := Entries.exists_mem_of_find? hmember
  rw [Scalar.same_str_iff] at hsame
  obtain ⟨definition, hdefinition, hdefines⟩ := (defines_of_definitionsOf h).2 key schema hmem
  exact ⟨definition, hdefinition, Scalar.eq_of_spells hdefines.name (Or.inl hsame), hdefines.type⟩

/-! ## Pointers to definitions -/

/-- The path of the table of named schemas. -/
def definitionsPath : Grammar → List String
  | .legacy => ["models"]
  | .swagger2 => ["definitions"]
  | .openApi3 => ["components", "schemas"]

theorem definitionsPath_mem_tables (grammar : Grammar) :
    definitionsPath grammar ∈ Reference.Kind.schema.tables := by
  cases grammar <;> decide

/-- The table of definitions is the one that references to schemas lead to. -/
theorem definitionsTable_eq (grammar : Grammar) (d : Entries) :
    definitionsTable grammar d = (Reference.table? (.map d) (definitionsPath grammar)).getD [] := by
  cases grammar with
  | legacy =>
      rfl
  | swagger2 =>
      rfl
  | openApi3 =>
      simp only [definitionsTable, OpenApi3.definitions, OpenApi3.components, definitionsPath,
        Reference.table?, Value.member?, Value.entries?, Option.bind_some]
      cases d.member? "components" with
      | none =>
          rfl
      | some v =>
          cases v <;> rfl

/-- The name of a pointer into a table is the name that stands behind the path of the table. -/
theorem name_of_table {kind : Reference.Kind} {path : List String} (hpath : path ∈ kind.tables)
    {written name : String} :
    Reference.writtenName? written = some name →
      Reference.Pointer.name (Reference.tableText path ++ written) = .ok name := by
  intro h
  unfold Reference.writtenName? at h
  split at h
  · cases h
  · rename_i hplain
    cases h
    rw [not_or] at hplain
    obtain ⟨hnonempty, hslash⟩ := hplain
    -- Behind the path there is one field, so it is the last segment.
    have hfields := List.splitOn_eq_singleton hslash
    have hparse := Reference.parse_table hpath written
    rw [hfields, List.map_singleton, if_neg (by simpa using hnonempty)] at hparse
    rw [Reference.Pointer.name, hparse, ok_bind, List.getLastD_concat]
    rfl

/-- A pointer into the table of named schemas that resolves has a definition: the one of its name, with
the type of the schema that it resolves to. -/
theorem exists_definition_of_resolve
    (h : definitionsOf (definitionsTable grammar d) = .ok definitions) {written : String}
    {schema : Entries} :
    Reference.resolve (.map d) .schema (Reference.tableText (definitionsPath grammar) ++ written) =
        .ok schema →
      ∃ definition ∈ definitions,
        Reference.Pointer.name (Reference.tableText (definitionsPath grammar) ++ written) =
            .ok definition.name ∧
          typeText (.map schema) = .ok definition.type := by
  intro hresolve
  have hpath := definitionsPath_mem_tables grammar
  have hfound := Reference.resolve_table (.map d) hpath written
  rw [hresolve, Except.toOption, eq_comm, Option.bind_eq_some_iff] at hfound
  obtain ⟨name, hname, hfound⟩ := hfound
  obtain ⟨entries, htable, hfound⟩ := Option.bind_eq_some_iff.1 hfound
  obtain ⟨v, hmember, hv⟩ := Option.bind_eq_some_iff.1 hfound
  rw [Value.entries?_eq_some_iff.1 hv] at hmember
  rw [definitionsTable_eq, htable, Option.getD_some] at h
  obtain ⟨definition, hmem, rfl, htype⟩ := exists_definition_of_member? h hmember
  exact ⟨definition, hmem, name_of_table hpath hname, htype⟩

/-! ## References in types -/

/-- What holds of a reference that becomes a name in a type.  It is a pointer whose last segment is the
name, and the name has a definition exactly where the document names a schema so.  So it has one if the
pointer leads into the table of named schemas and resolves there. -/
structure NamesDefinition (grammar : Grammar) (d : Entries) (definitions : List Definition)
    (type pointer name : String) : Prop where
  segment : Reference.Pointer.name pointer = .ok name
  within : Within name type
  defined : (∃ definition ∈ definitions, definition.name = name) ↔
    ∃ key schema, (key, .map schema) ∈ definitionsTable grammar d ∧ key.Spells name
  resolved : ∀ written schema, pointer = Reference.tableText (definitionsPath grammar) ++ written →
    Reference.resolve (.map d) .schema pointer = .ok schema →
      ∃ definition ∈ definitions, definition.name = name ∧
        typeText (.map schema) = .ok definition.type

/-- The definitions of a view are those of the table of its document. -/
theorem definitions_of_view {document : Value} {options : Options} {target : Target} {v : View} :
    (view grammar document options target).outcome = .ok v →
      ∃ entries, document = .map entries ∧
        definitionsOf (definitionsTable grammar entries) = .ok v.definitions := by
  intro h
  obtain ⟨entries, _, outside, hdocument, _, hframe, rfl⟩ := view_eq_ok_iff.1 h
  simp only [frame, bind_eq_ok_iff, accept_eq_ok_iff] at hframe
  obtain ⟨_, _, _, _, definitions, hdefinitions, _, rfl⟩ := hframe
  exact ⟨entries, hdocument, hdefinitions⟩

/-- Whatever schema has a type, the references that it names are pointers, and which of them have a
definition in a view depends on the table of named schemas alone. -/
theorem references_name_definitions {document : Value} {options : Options} {target : Target}
    {v : View} (h : (view grammar document options target).outcome = .ok v) :
    ∃ entries, document = .map entries ∧
      ∀ schema type pointer, typeText schema = .ok type → Names schema pointer →
        ∃ name, NamesDefinition grammar entries v.definitions type pointer name := by
  obtain ⟨entries, hdocument, hdefinitions⟩ := definitions_of_view h
  refine ⟨entries, hdocument, fun schema type pointer htype hnames => ?_⟩
  obtain ⟨name, hsegment, hwithin⟩ := TypeText.within_of_names hnames htype
  refine ⟨name, hsegment, hwithin, exists_definition_iff hdefinitions name, ?_⟩
  rintro written target rfl hresolve
  obtain ⟨definition, hmem, hname, htarget⟩ := exists_definition_of_resolve hdefinitions hresolve
  refine ⟨definition, hmem, ?_, htarget⟩
  exact Except.ok.inj (hname.symm.trans hsegment)

/-- A node that refers to a named schema of 2.0 documents. -/
def refersTo (name : String) : Value :=
  .object [("$ref", .str ("#/definitions/" ++ name))]

/-- A parameter node for a body of the given schema. -/
def bodyNode (schema : Value) : Value :=
  .object [("name", .str "p"), ("in", .str "body"), ("schema", schema)]

/-- A document in which an operation takes a body of the given schema, and more tables. -/
def bodyDocument (schema : Value) (tables : Entries) : Entries :=
  [(.str "swagger", .str "2.0"),
    (.str "paths", .object
      [("/a", .object [("get", .object [("parameters", .list [bodyNode schema])])])])] ++ tables

/-- Pets, which have tags. -/
def petTables : Entries :=
  [(.str "definitions", .object
    [("Pet", .object [("type", .str "object"), ("properties", .object [("tag", refersTo "Tag")])]),
      ("Tag", .object [("type", .str "string")])])]

/-- A list of pets. -/
def petList : Value :=
  .object [("type", .str "array"), ("items", refersTo "Pet")]

/-- The types of parameters, and the definitions. -/
def typeSummary (v : View) : List (List String) × List (String × String) :=
  (v.methods.map fun m => m.parameters.map (·.type), v.definitions.map fun d => (d.name, d.type))

theorem names_petList : Names (bodyNode petList) "#/definitions/Pet" := by
  refine Names.inside (List.mem_singleton.2 rfl) ?_
  exact Names.inside (List.mem_singleton.2 rfl) (Names.here rfl)

theorem bodyDocument_references_name_definitions :
    Names (bodyNode petList) "#/definitions/Pet" ∧
      ∃ v, (view .swagger2 (.map (bodyDocument petList petTables)) {} .custom).outcome = .ok v ∧
        typeSummary v =
          ([["Array<Pet>"]], [("Pet", "\x7b 'tag'?: Tag \x7d"), ("Tag", "string")]) ∧
        ∃ entries, Value.map (bodyDocument petList petTables) = .map entries ∧
          ∀ schema type pointer, typeText schema = .ok type → Names schema pointer →
            ∃ name, NamesDefinition .swagger2 entries v.definitions type pointer name := by
  have hrun : (view .swagger2 (.map (bodyDocument petList petTables)) {} .custom).outcome.toOption.map
      typeSummary =
        some ([["Array<Pet>"]], [("Pet", "\x7b 'tag'?: Tag \x7d"), ("Tag", "string")]) := by
    decide +kernel
  obtain ⟨v, hv, hsummary⟩ := exists_ok_of_toOption_map hrun
  exact ⟨names_petList, v, hv, hsummary, references_name_definitions hv⟩

/-- A parameter whose schema no table names. -/
def danglingNode : Value :=
  bodyNode (refersTo "Missing")

/-- A document without any table, in which an operation has that parameter. -/
def danglingDocument : Entries :=
  bodyDocument (refersTo "Missing") []

/-- A reference that becomes the type of a parameter may lead nowhere. -/
theorem danglingDocument_undefined :
    ¬ ∀ v, (view .swagger2 (.map danglingDocument) {} .custom).outcome = .ok v →
      ∀ m ∈ v.methods, ∀ p ∈ m.parameters, ∀ pointer, typeText danglingNode = .ok p.type →
        Names danglingNode pointer →
          ∃ schema, Reference.resolve (.map danglingDocument) .schema pointer = .ok schema := by
  intro hall
  have hrun : (view .swagger2 (.map danglingDocument) {} .custom).outcome.toOption.map typeSummary =
      some ([["Missing"]], []) := by
    decide +kernel
  obtain ⟨v, hv, hsummary⟩ := exists_ok_of_toOption_map hrun
  have hmethods : (v.methods.map fun m => m.parameters.map (·.type)) = [["Missing"]] :=
    congrArg Prod.fst hsummary
  obtain ⟨m, hm, hparameters⟩ := List.mem_map.1 (hmethods ▸ List.mem_singleton_self ["Missing"])
  obtain ⟨p, hp, htype⟩ := List.mem_map.1 (hparameters ▸ List.mem_singleton_self "Missing")
  have hnames : Names danglingNode "#/definitions/Missing" :=
    Names.inside (List.mem_singleton.2 rfl) (Names.here rfl)
  have htext : typeText danglingNode = .ok p.type := by
    rw [htype]
    exact (TypeText.typeText_of_innerSchema? rfl).trans (TypeText.typeText_of_plain rfl)
  obtain ⟨schema, hschema⟩ := hall v hv m hm p hp _ htext hnames
  have hlost : (Reference.resolve (.map danglingDocument) .schema "#/definitions/Missing").toOption =
      none := by
    decide +kernel
  rw [hschema] at hlost
  cases hlost

end Build
end ApiView
