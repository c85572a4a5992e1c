import Mathlib.Data.List.Infix
import ApiView.Proofs.Members
import ApiView.Reference.Resolve
import ApiView.TypeText

/-!
# Named — references inside of types

The type of a schema is put together of the types of its parts.  References are named where they stand,
however deep that is, and nothing is looked up on the way:

* `Within`: a text that is a piece of another one;
* `reference?`, `parts`: the reference that a node is, and the schemas whose types its type is made of;
* `Names`: the references that become names in the type of a schema;
* `within_of_part`: the types of the parts are pieces of the type;
* `within_of_names`: every reference that is named is a pointer, and its last segment is a piece of the
  type.
-/

namespace ApiView
namespace TypeText

/-! ## Pieces of a text -/

/-- A text is a piece of another one. -/
def Within (piece text : String) : Prop :=
  piece.toList <:+: text.toList

namespace Within

variable {piece text : String}

theorem refl (text : String) : Within text text :=
  List.infix_rfl

theorem trans {inner : String} : Within inner piece → Within piece text → Within inner text :=
  List.IsInfix.trans

/-- A text stands within any that it is put into. -/
theorem between (before : String) (text : String) (after : String) :
    Within text (before ++ text ++ after) := by
  unfold Within
  rw [String.toList_append, String.toList_append]
  exact List.infix_append _ _ _

theorem before (text after : String) : Within text (text ++ after) := by
  unfold Within
  rw [String.toList_append]
  exact (List.prefix_append _ _).isInfix

theorem behind (before text : String) : Within text (before ++ text) := by
  unfold Within
  rw [String.toList_append]
  exact (List.suffix_append _ _).isInfix

/-- Each of several texts is a piece of all of them with a separator in between. -/
theorem intercalate (separator : String) {texts : List String} :
    text ∈ texts → Within text (separator.intercalate texts) := by
  intro hmem
  unfold Within
  rw [String.toList_intercalate]
  induction texts with
  | nil =>
      cases hmem
  | cons head rest ih =>
      cases rest with
      | nil =>
          obtain rfl := List.mem_singleton.1 hmem
          rw [List.map_singleton, List.intercalate_singleton]
      | cons next rest =>
          rw [List.map_cons, List.map_cons, List.intercalate_cons_cons]
          rcases List.mem_cons.1 hmem with rfl | hrest
          · rw [List.append_assoc]
            exact (List.prefix_append _ _).isInfix
          · exact (ih hrest).trans (List.suffix_append _ _).isInfix

end Within

/-! ## Parts of a schema -/

/-- The inner schema of a node. -/
def innerSchema? (node : Entries) : Option Value :=
  table? node "schema"

/-- The reference that a node is, unless it has an inner schema. -/
def reference? (node : Entries) : Option String :=
  if (innerSchema? node).isSome then none else Reference.pointer? (.map node)

/-- The schemas that the type of an object is made of. -/
def objectParts (node : Entries) : List Value :=
  match node.member? "properties" with
  | some (.map (p :: ps)) => (p :: ps).map (·.2)
  | some (.again true places) => [.again true places]
  | _ => (table? node "additionalProperties").toList

mutual

/-- The schemas that a declared `type` is made of, given those of arrays and objects of the node. -/
def declaredParts (array object : List Value) (hasProperties : Bool) : Value → List Value
  | .list types => declaredPartsAll array object hasProperties types
  | .scalar .null => if hasProperties then object else []
  | .scalar (.str name) =>
    if name == "array" then array else if name == "object" then object else []
  -- What a list that is cut off holds is cut off too.
  | .again false places => [.again true places]
  | _ => []

/-- The schemas that several declared types are made of. -/
def declaredPartsAll (array object : List Value) (hasProperties : Bool) : List Value → List Value
  | [] => []
  | type :: rest =>
    declaredParts array object hasProperties type ++
      declaredPartsAll array object hasProperties rest

end

/-- The schemas that the type of a node is made of, if it has no inner schema and is no reference. -/
def structureParts (node : Entries) : List Value :=
  if (enumeration? node).isSome then []
  else
    match someItems? node "allOf", someItems? node "oneOf", someItems? node "anyOf" with
    | some members, _, _ => members
    | none, some members, _ => members
    | none, none, some members => members
    | none, none, none =>
      declaredParts (node.member? "items").toList (objectParts node) (node.hasMember "properties")
        (node.member "type")

/-- The schemas that the type of a node is made of. -/
def parts (node : Entries) : List Value :=
  match innerSchema? node with
  | some schema => [schema]
  | none => if (reference? node).isSome then [] else structureParts node

/-- A reference becomes a name in the type of a schema: the schema is that reference, or the reference
becomes a name in the type of a part. -/
inductive Names : Value → String → Prop
  | here {node : Entries} {pointer : String} :
      reference? node = some pointer → Names (.map node) pointer
  | inside {node : Entries} {part : Value} {pointer : String} :
      part ∈ parts node → Names part pointer → Names (.map node) pointer

/-! ## Types of parts -/

variable {node : Entries} {part : Value} {text : String}

/-- The type of a schema is a piece of a text. -/
def TypeWithin (v : Value) (text : String) : Prop :=
  ∃ type, typeText v = .ok type ∧ Within type text

/-- A type within a text is within whatever the text is within. -/
theorem TypeWithin.trans {whole : String} :
    TypeWithin part text → Within text whole → TypeWithin part whole := by
  rintro ⟨type, htype, hwithin⟩ hwhole
  exact ⟨type, htype, hwithin.trans hwhole⟩

/-- The type of a schema is among those of its row. -/
theorem exists_type_of_typeTexts {schemas : List Value} {texts : List String} :
    typeTexts schemas = .ok texts → part ∈ schemas →
      ∃ type, typeText part = .ok type ∧ type ∈ texts := by
  intro h hpart
  induction schemas generalizing texts with
  | nil =>
      cases hpart
  | cons v rest ih =>
      unfold typeTexts at h
      simp only [bind_eq_ok_iff, pure_eq_ok_iff] at h
      obtain ⟨type, htype, types, htypes, rfl⟩ := h
      rcases List.mem_cons.1 hpart with rfl | hrest
      · exact ⟨type, htype, List.mem_cons_self⟩
      · obtain ⟨type', htype', hmem⟩ := ih htypes hrest
        exact ⟨type', htype', List.mem_cons_of_mem _ hmem⟩

/-- The type of a member is within the text of the member. -/
theorem typeWithin_of_memberTexts {required : List Scalar} {members : Entries} {texts : List String} :
    memberTexts required members = .ok texts → part ∈ members.map (·.2) →
      ∃ member ∈ texts, TypeWithin part member := by
  intro h hpart
  induction members generalizing texts with
  | nil =>
      cases hpart
  | cons entry rest ih =>
      obtain ⟨name, v⟩ := entry
      unfold memberTexts at h
      simp only [bind_eq_ok_iff, pure_eq_ok_iff] at h
      obtain ⟨member, _, type, htype, others, hothers, rfl⟩ := h
      rcases List.mem_cons.1 hpart with rfl | hrest
      · exact ⟨_, List.mem_cons_self, type, htype, Within.behind _ _⟩
      · obtain ⟨member', hmem, hwithin⟩ := ih hothers hrest
        exact ⟨member', List.mem_cons_of_mem _ hmem, hwithin⟩

/-- The types of the parts of an object are within its type. -/
theorem typeWithin_of_objectText :
    objectText node = .ok text → part ∈ objectParts node → TypeWithin part text := by
  intro h hpart
  unfold objectText at h
  unfold objectParts at hpart
  split at h
  · rename_i p ps hproperties
    rw [hproperties] at hpart
    simp only [bind_eq_ok_iff, pure_eq_ok_iff] at h
    obtain ⟨required, _, members, hmembers, rfl⟩ := h
    -- The type of a part is in a member, and the member between the braces.
    obtain ⟨member, hmember, hwithin⟩ := typeWithin_of_memberTexts hmembers hpart
    exact hwithin.trans ((Within.intercalate "; " hmember).trans (Within.between _ _ _))
  · cases h
  · rename_i hnone hcut
    split at hpart
    · rename_i p ps hproperties
      exact absurd hproperties (hnone p ps)
    · rename_i places hproperties
      exact absurd hproperties (hcut places)
    · split at h
      · rename_i schema hadditional
        rw [hadditional] at hpart
        simp only [bind_eq_ok_iff, pure_eq_ok_iff] at h
        obtain ⟨type, htype, rfl⟩ := h
        obtain rfl := List.mem_singleton.1 hpart
        exact ⟨type, htype, Within.between _ _ _⟩
      · rename_i hadditional
        rw [hadditional] at hpart
        cases hpart

section Declared

variable {array object : Except Failure String} {arrayParts objectParts : List Value}
  {hasProperties : Bool}

mutual

/-- The type of a declared type has the types of the parts of the array or the object that it names. -/
theorem typeWithin_of_declared
    (harray : ∀ text, array = .ok text → part ∈ arrayParts → TypeWithin part text)
    (hobject : ∀ text, object = .ok text → part ∈ objectParts → TypeWithin part text) :
    ∀ (type : Value) {text : String}, declared array object hasProperties type = .ok text →
      part ∈ declaredParts arrayParts objectParts hasProperties type → TypeWithin part text
  | .list types, text, h, hpart => by
      simp only [declared, bind_eq_ok_iff, pure_eq_ok_iff] at h
      obtain ⟨texts, htexts, rfl⟩ := h
      obtain ⟨member, hmember, hwithin⟩ := typeWithin_of_declaredAll harray hobject types htexts hpart
      have hunion := hwithin.trans (Within.intercalate " | " hmember)
      split
      · rename_i hempty
        -- A piece of the empty text is a piece of any text.
        rw [beq_iff_eq] at hempty
        rw [hempty] at hunion
        exact hunion.trans (List.nil_infix)
      · exact hunion
  | .scalar .null, text, h, hpart => by
      cases hasProperties with
      | false =>
          cases hpart
      | true =>
          exact hobject text h hpart
  | .scalar (.str name), text, h, hpart => by
      unfold declared at h
      unfold declaredParts at hpart
      by_cases hname : (name == "array") = true
      · rw [if_pos hname] at h hpart
        exact harray text h hpart
      · rw [if_neg hname] at h hpart
        by_cases hname' : (name == "object") = true
        · rw [if_pos hname'] at h hpart
          exact hobject text h hpart
        · rw [if_neg hname'] at hpart
          cases hpart
  | .scalar (.bool _), _, _, hpart | .scalar (.int _), _, _, hpart
  | .scalar (.float _), _, _, hpart | .scalar (.date _), _, _, hpart
  | .scalar (.dateTime _), _, _, hpart | .scalar (.bytes _), _, _, hpart
  | .map _, _, _, hpart | .pair _ _, _, _, hpart | .set _, _, _, hpart
  | .again true _, _, _, hpart => by
      cases hpart
  | .again false _, _, h, _ => by
      cases h

/-- The types of the parts that are asked for are within the declared type. -/
theorem typeWithin_of_declaredAll
    (harray : ∀ text, array = .ok text → part ∈ arrayParts → TypeWithin part text)
    (hobject : ∀ text, object = .ok text → part ∈ objectParts → TypeWithin part text) :
    ∀ (types : List Value) {texts : List String},
      declaredAll array object hasProperties types = .ok texts →
        part ∈ declaredPartsAll arrayParts objectParts hasProperties types →
          ∃ text ∈ texts, TypeWithin part text
  | [], _, _, hpart => by
      cases hpart
  | type :: rest, texts, h, hpart => by
      simp only [declaredAll, bind_eq_ok_iff, pure_eq_ok_iff] at h
      obtain ⟨text, htext, others, hothers, rfl⟩ := h
      rcases List.mem_append.1 hpart with hfirst | hrest
      · exact ⟨text, List.mem_cons_self, typeWithin_of_declared harray hobject type htext hfirst⟩
      · obtain ⟨text', hmem, hwithin⟩ :=
          typeWithin_of_declaredAll harray hobject rest hothers hrest
        exact ⟨text', List.mem_cons_of_mem _ hmem, hwithin⟩

end

end Declared

/-- Schemas that are joined have their types in the whole. -/
theorem typeWithin_of_joined {schemas : List Value} {separator : String} :
    (typeTexts schemas >>= fun texts => pure (separator.intercalate texts)) = .ok text →
      part ∈ schemas → TypeWithin part text := by
  intro h hpart
  simp only [bind_eq_ok_iff, pure_eq_ok_iff] at h
  obtain ⟨texts, htexts, rfl⟩ := h
  obtain ⟨type, htype, hmem⟩ := exists_type_of_typeTexts htexts hpart
  exact ⟨type, htype, Within.intercalate separator hmem⟩

/-- The types of the parts of a structure are within its type. -/
theorem typeWithin_of_structureText :
    structureText node = .ok text → part ∈ structureParts node → TypeWithin part text := by
  intro h hpart
  unfold structureText at h
  unfold structureParts at hpart
  cases henum : enumeration? node with
  | some values =>
      simp [henum] at hpart
  | none =>
      simp only [henum, Option.isSome_none, Bool.false_eq_true, if_false] at h hpart
      -- The compositions are asked for one after the other, the first that has members counts.
      split at h
      · rename_i hmembers
        rw [hmembers] at hpart
        exact typeWithin_of_joined h hpart
      · rename_i hall
        rw [hall] at hpart
        split at h
        · rename_i hmembers
          rw [hmembers] at hpart
          exact typeWithin_of_joined h hpart
        · rename_i hone
          rw [hone] at hpart
          split at h
          · rename_i hmembers
            rw [hmembers] at hpart
            exact typeWithin_of_joined h hpart
          · -- Without any composition the declared type decides which parts are read.
            rename_i hany
            rw [hany] at hpart
            refine typeWithin_of_declared ?_ (fun _ => typeWithin_of_objectText) _ h hpart
            intro array harray hitems
            rw [Option.mem_toList] at hitems
            split at harray
            · rename_i v hmember
              obtain rfl : v = part := Option.some.inj (hmember.symm.trans hitems)
              simp only [bind_eq_ok_iff, pure_eq_ok_iff] at harray
              obtain ⟨items, htype, rfl⟩ := harray
              exact ⟨items, htype, Within.between _ _ _⟩
            · rename_i hmember
              rw [hmember] at hitems
              cases hitems

/-! ## Nodes -/

theorem typeText_of_innerSchema? {schema : Value} :
    innerSchema? node = some schema → typeText (.map node) = typeText schema := by
  intro h
  conv_lhs => unfold typeText
  split
  · rename_i schema' hmember
    cases hmember.symm.trans h
    rfl
  · rename_i hnone
    cases hnone.symm.trans h

/-- A node without an inner schema is a reference, or has the type of its structure. -/
theorem typeText_of_plain (hschema : innerSchema? node = none) :
    typeText (.map node) = match reference? node with
      | some pointer => Reference.Pointer.name pointer
      | none => structureText node >>= fun type =>
        .ok (withNull (node.member "nullable").isTrue type) := by
  have hreference : reference? node = (node.member? "$ref").bind Value.text? := by
    rw [reference?, hschema]
    rfl
  rw [hreference]
  conv_lhs => unfold typeText
  split
  · rename_i schema hmember
    cases hmember.symm.trans hschema
  · rfl

/-- A reference has no inner schema. -/
theorem innerSchema?_of_reference? {pointer : String} :
    reference? node = some pointer → innerSchema? node = none := by
  intro h
  unfold reference? at h
  cases hschema : innerSchema? node with
  | none =>
      rfl
  | some schema =>
      simp [hschema] at h

/-- The types of its parts are pieces of the type of a node. -/
theorem within_of_part :
    typeText (.map node) = .ok text → part ∈ parts node → TypeWithin part text := by
  intro h hpart
  unfold parts at hpart
  cases hschema : innerSchema? node with
  | some schema =>
      rw [hschema] at hpart
      obtain rfl := List.mem_singleton.1 hpart
      rw [typeText_of_innerSchema? hschema] at h
      exact ⟨text, h, Within.refl text⟩
  | none =>
      cases href : reference? node with
      | some pointer =>
          simp [hschema, href] at hpart
      | none =>
          simp only [hschema, href, Option.isSome_none, Bool.false_eq_true, if_false] at hpart
          rw [typeText_of_plain hschema, href] at h
          simp only [bind_eq_ok_iff, Except.ok.injEq] at h
          obtain ⟨type, htype, rfl⟩ := h
          have hwithin := typeWithin_of_structureText htype hpart
          -- Null may stand behind the type.
          unfold withNull
          split
          · exact hwithin.trans (Within.before _ _)
          · exact hwithin

/-- A reference that becomes a name is a pointer, and the name is its last segment. -/
theorem within_of_names {v : Value} {pointer : String} :
    Names v pointer → ∀ {text}, typeText v = .ok text →
      ∃ name, Reference.Pointer.name pointer = .ok name ∧ Within name text := by
  intro h
  -- The induction goes down to the reference, and the type of each part is within that of the whole.
  induction h with
  | here href =>
      intro text htext
      rw [typeText_of_plain (innerSchema?_of_reference? href), href] at htext
      exact ⟨text, htext, Within.refl text⟩
  | inside hpart _ ih =>
      intro text htext
      obtain ⟨type, htype, hwithin⟩ := within_of_part htext hpart
      obtain ⟨name, hname, hpiece⟩ := ih htype
      exact ⟨name, hname, hpiece.trans hwithin⟩

end TypeText
end ApiView
