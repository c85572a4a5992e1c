import ApiView.Proofs.Outcomes
import ApiView.Proofs.Schema.Named

/-!
# Forms — what decides on the type of a node

A node is asked for an inner schema, a reference, an enumeration, a composition and a declared type, in that
order, and the first that it has decides on its type.  That order is said once here:

* `Form`, `form`: the five cases, with what the type is made of;
* `typeText_of_schema`, `typeText_of_reference`, `typeText_of_structure`: the type of a node by its form;
* `structureText_of_enumeration`, `structureText_of_composition`, `structureText_of_declared`: the type of a
  node that is put together, before null is added to it;
* `indexText`, `objectText_of_members`, `objectText_of_no_members`: the type of an object;
* `parts_of_form`: the schemas that the type is made of.
-/

namespace ApiView
namespace TypeText

/-- The composition that a node is: what stands between the types of its members, and the members. -/
def composition? (node : Entries) : Option (String × List Value) :=
  match someItems? node "allOf", someItems? node "oneOf", someItems? node "anyOf" with
  | some members, _, _ => some (" & ", members)
  | none, some members, _ => some (" | ", members)
  | none, none, some members => some (" | ", members)
  | none, none, none => none

/-- What decides on the type of a node. -/
inductive Form
  | schema (inner : Value)
  | reference (pointer : String)
  | enumeration (values : List Value)
  | composition (separator : String) (members : List Value)
  | declared (type : Value)

/-- The form of a node: the first that it has counts. -/
def form (node : Entries) : Form :=
  match innerSchema? node, reference? node, enumeration? node, composition? node with
  | some inner, _, _, _ => .schema inner
  | none, some pointer, _, _ => .reference pointer
  | none, none, some values, _ => .enumeration values
  | none, none, none, some (separator, members) => .composition separator members
  | none, none, none, none => .declared (node.member "type")

/-- A form whose type is put together, and which null may be added to. -/
def Form.isStructure : Form → Bool
  | .schema _ | .reference _ => false
  | _ => true

/-- The type of the arrays of a node. -/
def arrayText (node : Entries) : Except Failure String := do
  let items ← match node.member? "items" with
    | some items => typeText items
    | none => .ok "any"
  return "Array<" ++ items ++ ">"

/-- The type of an object that names no members: an index signature, or the empty object. -/
def indexText (node : Entries) : Except Failure String :=
  match table? node "additionalProperties" with
  | some schema => do
    return "\x7b [key: string]: " ++ (← typeText schema) ++ " \x7d"
  | none =>
    .ok (if (node.member "additionalProperties").isTrue then "\x7b [key: string]: any \x7d"
      else "\x7b\x7d")

variable {node : Entries} {pointer separator text : String} {members values : List Value}
  {inner type : Value}

/-! ## The form of a node -/

theorem form_eq_schema_iff : form node = .schema inner ↔ innerSchema? node = some inner := by
  unfold form
  split <;> simp_all

/-- A node is a reference if it has a pointer. -/
theorem form_eq_reference_iff : form node = .reference pointer ↔ reference? node = some pointer := by
  constructor
  · unfold form
    split <;> simp_all
  · intro h
    rw [form, innerSchema?_of_reference? h, h]

/-- A node has a structure of its own if it is neither of the two. -/
theorem isStructure_iff :
    (form node).isStructure = true ↔ innerSchema? node = none ∧ reference? node = none := by
  unfold form
  split <;> simp_all [Form.isStructure]

/-- A structure is an enumeration if it lists values. -/
theorem form_eq_enumeration_iff : form node = .enumeration values ↔
    (form node).isStructure = true ∧ enumeration? node = some values := by
  unfold form
  split <;> simp_all [Form.isStructure]

/-- A structure is a composition if it lists members and no values. -/
theorem form_eq_composition_iff : form node = .composition separator members ↔
    (form node).isStructure = true ∧ enumeration? node = none ∧
      composition? node = some (separator, members) := by
  unfold form
  split <;> simp_all [Form.isStructure]

/-- Any other structure goes by the type that it declares. -/
theorem form_eq_declared_iff : form node = .declared type ↔
    (form node).isStructure = true ∧ enumeration? node = none ∧ composition? node = none ∧
      node.member "type" = type := by
  unfold form
  split <;> simp_all [Form.isStructure]

/-! ## The type by the form -/

/-- The type of a node with an inner schema is the one of that. -/
theorem typeText_of_schema (h : form node = .schema inner) :
    typeText (.map node) = typeText inner :=
  typeText_of_innerSchema? (form_eq_schema_iff.1 h)

/-- The type of a reference is the last segment of its pointer. -/
theorem typeText_of_reference (h : form node = .reference pointer) :
    typeText (.map node) = Reference.Pointer.name pointer := by
  have href := form_eq_reference_iff.1 h
  rw [typeText_of_plain (innerSchema?_of_reference? href), href]

/-- The type of a structure, with null added where it may be. -/
theorem typeText_of_structure (h : (form node).isStructure = true) :
    typeText (.map node) = structureText node >>= fun type =>
      .ok (withNull (node.member "nullable").isTrue type) := by
  obtain ⟨hschema, href⟩ := isStructure_iff.1 h
  rw [typeText_of_plain hschema, href]

theorem typeTexts_eq_mapM (schemas : List Value) : typeTexts schemas = schemas.mapM typeText := by
  induction schemas with
  | nil =>
      unfold typeTexts
      rfl
  | cons v rest ih =>
      unfold typeTexts
      rw [List.mapM_cons, ih]

/-- Schemas that are joined have a type iff each of them has. -/
theorem joined_eq_ok_iff {schemas : List Value} :
    (typeTexts schemas >>= fun types => pure (separator.intercalate types)) = .ok text ↔
      ∃ types, List.Forall₂ (fun v type => typeText v = .ok type) schemas types ∧
        separator.intercalate types = text := by
  simp only [typeTexts_eq_mapM, bind_eq_ok_iff, pure_eq_ok_iff, mapM_eq_ok_iff]

/-- The type of an enumeration is the union of its literals. -/
theorem structureText_of_enumeration (h : form node = .enumeration values) :
    structureText node = values.mapM literal >>= fun types => pure (" | ".intercalate types) := by
  obtain ⟨-, henum⟩ := form_eq_enumeration_iff.1 h
  unfold structureText
  simp only [henum]

/-- The node without an enumeration, by the compositions it is asked for. -/
theorem structureText_of_no_enumeration (henum : enumeration? node = none) :
    structureText node = match composition? node with
      | some (separator, members) =>
        typeTexts members >>= fun types => pure (separator.intercalate types)
      | none =>
        declared (arrayText node) (objectText node) (node.hasMember "properties")
          (node.member "type") := by
  unfold structureText composition?
  simp only [henum]
  split
  · rename_i hmembers
    rw [hmembers]
  · rename_i hall
    rw [hall]
    split
    · rename_i hmembers
      rw [hmembers]
    · rename_i hone
      rw [hone]
      split
      · rename_i hmembers
        rw [hmembers]
      · rename_i hany
        rw [hany]
        unfold arrayText
        cases hitems : node.member? "items" <;> simp

/-- The type of a composition joins those of its members. -/
theorem structureText_of_composition (h : form node = .composition separator members) :
    structureText node =
      typeTexts members >>= fun types => pure (separator.intercalate types) := by
  obtain ⟨-, henum, hcomposition⟩ := form_eq_composition_iff.1 h
  rw [structureText_of_no_enumeration henum, hcomposition]

/-- The type of any other structure is the declared one. -/
theorem structureText_of_declared (h : form node = .declared type) :
    structureText node =
      declared (arrayText node) (objectText node) (node.hasMember "properties") type := by
  obtain ⟨-, henum, hcomposition, rfl⟩ := form_eq_declared_iff.1 h
  rw [structureText_of_no_enumeration henum, hcomposition]

/-- The type of an object lists its members. -/
theorem objectText_of_members {p : Scalar × Value} {ps : Entries}
    (h : node.member? "properties" = some (.map (p :: ps))) :
    objectText node = requiredKeys node >>= fun required =>
      memberTexts required (p :: ps) >>= fun members =>
        pure ("\x7b " ++ "; ".intercalate members ++ " \x7d") := by
  unfold objectText
  split
  · rename_i p' ps' hproperties
    rw [h] at hproperties
    cases hproperties
    rfl
  · rename_i hproperties
    cases h.symm.trans hproperties
  · rename_i hnone _
    exact absurd h (hnone p ps)

/-- An object whose members are cut off has no type. -/
theorem objectText_of_cut {places : List Nat}
    (h : node.member? "properties" = some (.again true places)) :
    objectText node = .error (.defect .endlessNesting) := by
  unfold objectText
  split
  · rename_i hproperties
    cases h.symm.trans hproperties
  · rfl
  · rename_i hcut
    exact absurd h (hcut places)

/-- An object without members has an index. -/
theorem objectText_of_no_members (h : ∀ p ps, node.member? "properties" ≠ some (.map (p :: ps)))
    (hcut : ∀ places, node.member? "properties" ≠ some (.again true places)) :
    objectText node = indexText node := by
  unfold objectText indexText
  split
  · rename_i p ps hproperties
    exact absurd hproperties (h p ps)
  · rename_i places hproperties
    exact absurd hproperties (hcut places)
  · generalize table? node "additionalProperties" = additional
    cases additional <;> rfl

/-! ## The parts by the form -/

theorem parts_of_form : parts node = match form node with
    | .schema inner => [inner]
    | .reference _ | .enumeration _ => []
    | .composition _ members => members
    | .declared type =>
      declaredParts (node.member? "items").toList (objectParts node) (node.hasMember "properties")
        type := by
  unfold parts structureParts form composition?
  cases innerSchema? node with
  | some inner =>
      rfl
  | none =>
      cases reference? node with
      | some pointer =>
          rfl
      | none =>
          cases enumeration? node with
          | some values =>
              rfl
          | none =>
              cases someItems? node "allOf" <;> cases someItems? node "oneOf" <;>
                cases someItems? node "anyOf" <;> rfl

end TypeText
end ApiView
