import ApiView.Proofs.Reference.Tables
import ApiView.Proofs.Translation.Document

/-!
# References — chains of references in a translated document

The table of parameters moves into the components, and every pointer into it moves along.  So a chain
of references leads through the same entries in both documents:

* `member?_document_kept`, `member?_document_dropped`: what a translated document has under a name;
* `toOption_resolve_pointer`: one reference leads to the translated entry;
* `toOption_deref_parameter`: a chain of references ends at the same node, or fails in both documents;
* `deref_of_inline`: what is no reference is left alone.
-/

namespace ApiView
namespace Translation

variable {d : Entries}

/-! ## Members of a translated document -/

/-- Apart from the version and the components, all members come from the given document. -/
theorem member?_document_of_ne {name : String} (hversion : name ≠ "openapi")
    (hcomponents : name ≠ "components") :
    (document d).member? name = (edit documentMember d).member? name := by
  rw [document, Entries.member?_cons_of_ne (by simpa using hversion.symm), Entries.member?_append,
    Entries.member?_cons_of_ne (by simpa using hcomponents.symm)]
  exact Option.or_none

/-- Members of a document that are changed are found changed. -/
theorem member?_document_kept {name : String} {change : Value → Value}
    (hkept : ∀ v, documentMember (.str name) v = some (change v)) (hversion : name ≠ "openapi")
    (hcomponents : name ≠ "components") :
    (document d).member? name = (d.member? name).map change :=
  (member?_document_of_ne hversion hcomponents).trans (member?_edit_kept hkept d)

theorem member?_document_same {name : String} (hsame : ∀ v, documentMember (.str name) v = some v)
    (hversion : name ≠ "openapi") (hcomponents : name ≠ "components") :
    (document d).member? name = d.member? name :=
  (member?_document_of_ne hversion hcomponents).trans (member?_edit_same hsame d)

theorem member?_document_dropped {name : String} (hdropped : ∀ v, documentMember (.str name) v = none)
    (hversion : name ≠ "openapi") (hcomponents : name ≠ "components") :
    (document d).member? name = none :=
  (member?_document_of_ne hversion hcomponents).trans (member?_edit_dropped hdropped d)

theorem member?_components_document (habsent : d.member? "components" = none) :
    (document d).member? "components" = some (.map (components d)) := by
  have hkept : (edit documentMember d).member? "components" = none := by
    rw [member?_edit_same fun _ => rfl, habsent]
  rw [document, Entries.member?_cons_of_ne (by decide), Entries.member?_append, hkept,
    Entries.member?_cons_self]
  rfl

/-- Where the three tables of a 2.0 document are found among the components. -/
theorem components_lookup :
    (components d).member? "securitySchemes" = d.member? "securityDefinitions" ∧
      (components d).member? "parameters" = (d.member? "parameters").map parameterTable ∧
        (components d).member? "schemas" = d.member? "definitions" := by
  simp [components, Entries.member?_append, member?_moved_self, member?_moved_of_ne]

/-! ## Pointers -/

/-- A pointer to a shared parameter is moved to the components. -/
theorem pointer_written (written : String) :
    pointer ("#/parameters/" ++ written) = "#/components/parameters/" ++ written := by
  simp [pointer]

/-- A reference is translated by its pointer. -/
theorem pointer?_parameter (node : Value) :
    Reference.pointer? (parameter node) = (Reference.pointer? node).map pointer := by
  cases node with
  | map entries =>
      cases hp : Reference.pointer? (.map entries) with
      | none =>
          simp [parameter, redirect, hp]
      | some p =>
          simp only [parameter, redirect, hp]
          simp [Reference.pointer?, Value.member?, Value.entries?, Entries.member?_put_self, Value.str,
            Value.text?]
  | _ =>
      rfl

theorem pointer?_parameter_of_eq_some {node : Value} {p : String} :
    Reference.pointer? node = some p → Reference.pointer? (parameter node) = some (pointer p) := by
  intro hp
  rw [pointer?_parameter, hp]
  rfl

theorem parameter_of_pointer?_eq_none {node : Value} :
    Reference.pointer? node = none → parameter node = node := by
  intro hp
  cases node with
  | map entries =>
      simp [parameter, redirect, hp]
  | _ =>
      rfl

/-- Pointers into the table are kept apart. -/
theorem pointer_injective {p q : String} :
    IntoTable p → IntoTable q → (pointer p = pointer q ↔ p = q) := by
  rintro ⟨pw, rfl⟩ ⟨qw, rfl⟩
  simp [pointer_written]

/-- A pointer has been seen exactly if its translation has. -/
theorem contains_map_pointer {seen : List String} {p : String}
    (hseen : ∀ q ∈ seen, IntoTable q) (hp : IntoTable p) :
    (seen.map pointer).contains (pointer p) = seen.contains p := by
  rw [Bool.eq_iff_iff, List.contains_iff_mem, List.contains_iff_mem, List.mem_map]
  constructor
  · rintro ⟨q, hq, heq⟩
    rwa [← (pointer_injective (hseen q hq) hp).1 heq]
  · intro hmem
    exact ⟨p, hmem, rfl⟩

/-! ## The table of parameters -/

theorem table?_parameters : Reference.table? (.map d) ["parameters"] = sharedTable d := rfl

theorem sharedTable_document : sharedTable (document d) = none := by
  have hnone : (document d).member? "parameters" = none :=
    member?_document_dropped (fun _ => rfl) (by decide) (by decide)
  rw [sharedTable, hnone]
  rfl

/-- The shared parameters are found among the components. -/
theorem table?_components_document (habsent : d.member? "components" = none) :
    Reference.table? (.map (document d)) ["components", "parameters"] =
      (sharedTable d).map (edit fun _ node => some (parameter node)) := by
  have hcomponents := member?_components_document habsent
  have hparameters := (components_lookup (d := d)).2.1
  simp only [Reference.table?, Value.member?, Value.entries?, Option.bind_some, hcomponents,
    hparameters, sharedTable]
  cases d.member? "parameters" with
  | none =>
      rfl
  | some v =>
      cases v <;> rfl

/-- A name that leads to a node leads to the translated node in the translated table. -/
theorem member?_parameterTable (entries : Entries) (name : String) :
    (edit (fun _ node => some (parameter node)) entries).member? name =
      (entries.member? name).map parameter :=
  member?_edit_kept (fun _ => rfl) entries

/-! ## References -/

/-- The moved pointer of a reference leads to the translated entry. -/
theorem toOption_resolve_pointer (habsent : d.member? "components" = none) (written : String) :
    (Reference.resolve (.map (document d)) .parameter (pointer ("#/parameters/" ++ written))).toOption =
      (Reference.resolve (.map d) .parameter ("#/parameters/" ++ written)).toOption.map redirect := by
  have hold : Reference.tableText ["parameters"] = "#/parameters/" := by decide
  have hnew : Reference.tableText ["components", "parameters"] = "#/components/parameters/" := by
    decide
  rw [pointer_written, ← hold, ← hnew, Reference.resolve_table _ (by decide),
    Reference.resolve_table _ (by decide), table?_parameters, table?_components_document habsent]
  cases Reference.writtenName? written with
  | none =>
      rfl
  | some name =>
      cases sharedTable d with
      | none =>
          rfl
      | some entries =>
          simp only [Option.bind_some, Option.map_some, member?_parameterTable]
          cases entries.member? name with
          | none =>
              rfl
          | some v =>
              cases v <;> rfl

/-- An entry of the table of parameters can be moved. -/
theorem movable_of_resolve (h : Common d) {written : String} {entries : Entries} :
    Reference.resolve (.map d) .parameter ("#/parameters/" ++ written) = .ok entries →
      Movable (.map entries) := by
  intro hresolve
  have hold : Reference.tableText ["parameters"] = "#/parameters/" := by decide
  have hentry := congrArg Except.toOption hresolve
  rw [← hold, Reference.resolve_table _ (by decide), table?_parameters] at hentry
  simp only [Except.toOption, Option.bind_eq_some_iff] at hentry
  rcases hentry with ⟨name, _, table, htable, v, hv, hentries⟩
  rcases Entries.exists_mem_of_find? hv with ⟨key, hmem, _⟩
  have hmovable := h.parameters table htable (key, v) hmem
  cases v with
  | map =>
      cases hentries
      exact hmovable
  | _ =>
      cases hentries

/-- What is no reference ends a chain in both documents. -/
theorem follow_parameter_of_inline {fuel : Nat} {seen : List String} {node : Value} :
    Reference.pointer? node = none →
      Reference.follow (.map (document d)) .parameter (seen.map pointer) fuel (parameter node) =
        Reference.follow (.map d) .parameter seen fuel node := by
  intro hp
  rw [parameter_of_pointer?_eq_none hp, Reference.follow_of_inline hp, Reference.follow_of_inline hp]

/-- A chain of references leads through the same entries in both documents. -/
theorem toOption_follow (h : Common d) {fuel : Nat} {seen : List String} {node : Value}
    (hnode : Movable node) (hseen : ∀ p ∈ seen, IntoTable p) :
    (Reference.follow (.map (document d)) .parameter (seen.map pointer) fuel
      (parameter node)).toOption =
        (Reference.follow (.map d) .parameter seen fuel node).toOption := by
  -- The pointers seen in the translated document are the moved ones of those seen in the other.
  induction fuel generalizing seen node with
  | zero =>
      cases hp : Reference.pointer? node with
      | none =>
          rw [follow_parameter_of_inline hp]
      | some p =>
          have hp' := pointer?_parameter_of_eq_some hp
          rw [Reference.toOption_follow_of_stuck hp (Or.inr rfl),
            Reference.toOption_follow_of_stuck hp' (Or.inr rfl)]
  | succ fuel ih =>
      cases hp : Reference.pointer? node with
      | none =>
          rw [follow_parameter_of_inline hp]
      | some p =>
          have hp' := pointer?_parameter_of_eq_some hp
          have hcontains := contains_map_pointer hseen (hnode p hp)
          by_cases hfresh : seen.contains p = true
          · rw [Reference.toOption_follow_of_stuck hp (Or.inl hfresh),
              Reference.toOption_follow_of_stuck hp' (Or.inl (hcontains.trans hfresh))]
          · rw [Reference.follow_succ hp (by simpa using hfresh),
              Reference.follow_succ hp' (by rw [hcontains]; simpa using hfresh)]
            rcases hnode p hp with ⟨written, rfl⟩
            rw [toOption_bind, toOption_bind, toOption_resolve_pointer (h.absent _ (by decide))]
            cases hresolve : Reference.resolve (.map d) .parameter ("#/parameters/" ++ written) with
            | error e =>
                rfl
            | ok entries =>
                -- The next entry is a node of the table, and its pointer has been followed.
                have hentries := movable_of_resolve h hresolve
                have hseen' : ∀ q ∈ ("#/parameters/" ++ written) :: seen, IntoTable q :=
                  List.forall_mem_cons.2 ⟨⟨written, rfl⟩, hseen⟩
                exact ih hentries hseen'

/-- As many references can be followed in both documents. -/
theorem entryCount_document (habsent : d.member? "components" = none) :
    Reference.entryCount (.map (document d)) .parameter = Reference.entryCount (.map d) .parameter := by
  have hold : Reference.table? (.map d) ["components", "parameters"] = none := by
    simp [Reference.table?, Value.member?, Value.entries?, habsent]
  simp only [Reference.entryCount, Reference.Kind.tables, List.flatMap_cons, List.flatMap_nil, hold,
    table?_parameters, sharedTable_document, table?_components_document habsent]
  cases sharedTable d with
  | none =>
      rfl
  | some entries =>
      simp [length_edit_kept]

/-- A parameter node leads to the same node in both documents, or to none in either. -/
theorem toOption_deref_parameter (h : Common d) {node : Value} (hnode : Movable node) :
    (Reference.deref (.map (document d)) .parameter (parameter node)).toOption =
      (Reference.deref (.map d) .parameter node).toOption := by
  unfold Reference.deref
  rw [entryCount_document (h.absent _ (by decide))]
  exact toOption_follow h hnode fun _ hmem => absurd hmem List.not_mem_nil

end Translation
end ApiView
