import ApiView.Proofs.Build.Drafts

/-!
# MethodNames — operations and methods of a view, one to one

A view has one method for each retained operation, in document order.  Names are asked for by the
operations and made distinct over the whole document:

* `Build.AsksFor`: the name that an operation asks for;
* `Build.Represents`: a method stands for an operation;
* `methods_represent_operations`: the methods of a view stand for the retained operations, under
  pairwise distinct names.
-/

namespace ApiView
namespace Build

/-! ## Base names -/

/-- The name that an operation asks for: the id that it declares as an identifier, if that is a text
and not blank, and otherwise the name of its verb and path. -/
def AsksFor (op : Operation) (explicit : Value) (base : String) : Prop :=
  (∃ id, explicit = .str id ∧ Text.isBlankText id = false ∧ base = Naming.identifier id) ∨
    (∀ id, explicit = .str id → Text.isBlankText id = true) ∧
      ∃ path, op.path = .str path ∧ base = Naming.pathName op.verb.word path

/-- Only paths that are texts give names. -/
theorem nameOfPath_eq_ok {verb : Verb} {path : Scalar} {base : String} :
    nameOfPath verb path = .ok base →
      ∃ text, path = .str text ∧ base = Naming.pathName verb.word text := by
  intro h
  cases path with
  | str text =>
      cases h
      exact ⟨text, rfl, rfl⟩
  | _ =>
      cases h

theorem asksFor_of_baseName {op : Operation} {explicit : Value} {base : String} :
    baseName op explicit = .ok base → AsksFor op explicit base := by
  intro h
  unfold baseName at h
  -- An id that is blank counts like none.
  split at h
  · rename_i id hid
    have hexplicit : explicit = .str id := by
      unfold Value.text? at hid
      split at hid
      · cases hid
        rfl
      · cases hid
    subst hexplicit
    by_cases hblank : Text.isBlankText id = true
    · rw [if_pos hblank] at h
      refine Or.inr ⟨?_, nameOfPath_eq_ok h⟩
      intro id' hid'
      cases hid'
      exact hblank
    · rw [if_neg hblank] at h
      cases h
      exact Or.inl ⟨id, rfl, by simpa using hblank, rfl⟩
  · rename_i hnone
    refine Or.inr ⟨?_, nameOfPath_eq_ok h⟩
    rintro id rfl
    cases hnone

/-! ## Methods and their operations -/

/-- A method stands for an operation: it carries its verb and path, under the name that the operation
asks for or that name with a numbered suffix. -/
structure Represents (grammar : Grammar) (op : Operation) (m : Method) : Prop where
  verb : m.verb = op.verb
  path : op.path.Spells m.path
  name : ∃ base, AsksFor op (explicitId grammar op.node) base ∧
    (m.name = base ∨ ∃ k, 1 ≤ k ∧ m.name = Naming.Allocator.suffixed base k)

/-- A draft stands for its operation, and so does the method that it becomes. -/
theorem represents_of_method {grammar : Grammar} {setup : Setup} {op : Operation} {draft m : Method}
    (hdraft : (method grammar setup op).outcome = .ok draft)
    (hm : m = { draft with name := m.name })
    (hname : m.name = draft.name ∨
      ∃ k, 1 ≤ k ∧ m.name = Naming.Allocator.suffixed draft.name k) :
    Represents grammar op m := by
  rcases exists_draft_of_method hdraft with ⟨d, hd, hassemble⟩
  have hassembled := assembled_of_assemble hassemble
  rw [hassembled.name] at hname
  refine ⟨?_, ?_, d.name, asksFor_of_baseName hd.name, hname⟩
  · rw [hm]
    exact hassembled.verb
  · rw [hm]
    exact hassembled.path

/-- The methods of a view stand for the retained operations of its document, one for each and in
document order, and no two of them have the same name. -/
theorem methods_represent_operations {grammar : Grammar} {document : Value} {options : Options}
    {target : Target} {v : View} (h : (view grammar document options target).outcome = .ok v) :
    ∃ entries, document = .map entries ∧
      List.Forall₂ (Represents grammar) (retained grammar entries) v.methods ∧
        (v.methods.map (·.name)).Nodup := by
  rcases viewed_of_view h with ⟨entries, drafts, hdocument, hv⟩
  refine ⟨entries, hdocument, ?_, ?_⟩
  · refine hv.methods_forall₂.imp ?_
    rintro op m ⟨draft, hdraft, hm, hname⟩
    exact represents_of_method hdraft hm hname
  · rw [hv.methods, map_name_nameMethods]
    exact Naming.distinct_nodup _

/-- Two operations that ask for one name, one that asks for the name which the second of them gets, and
one that asks for none. -/
def crowdedDocument : Entries :=
  [(.str "paths", .object
    [("/pets", .object
      [("get", .object [("operationId", .str "list")]), ("x-note", .null),
        ("post", .object [("operationId", .str "list")])]),
     ("/pets/\x7bid\x7d", .object
      [("Get", .object [("operationId", .str "list_1")]),
        ("delete", .object [("operationId", .str " ")])])])]

theorem crowdedDocument_methods_represent_operations :
    ∃ v, (view .swagger2 (.map crowdedDocument) {} .custom).outcome = .ok v ∧
      v.methods.map (·.name) = ["list", "list_1", "list_1_1", "deletePetsById"] ∧
        ∃ entries, .map crowdedDocument = Value.map entries ∧
          List.Forall₂ (Represents .swagger2) (retained .swagger2 entries) v.methods ∧
            (v.methods.map (·.name)).Nodup := by
  have hrun : ((view .swagger2 (.map crowdedDocument) {} .custom).outcome.toOption.map
      fun v => v.methods.map (·.name)) = some ["list", "list_1", "list_1_1", "deletePetsById"] := by
    decide +kernel
  rcases exists_ok_of_toOption_map hrun with ⟨v, hv, hnames⟩
  exact ⟨v, hv, hnames, methods_represent_operations hv⟩

end Build
end ApiView
