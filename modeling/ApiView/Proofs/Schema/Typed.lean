import ApiView.Proofs.Schema.Forms

/-!
# Typed — schemas whose members have the kinds that they are read at

The type of a schema is put together without a check of what the schema holds, so a member of another kind
than the one that is expected ends it.  Where every member has its kind there is a type:

* `Entries.MemberIs`: a member is of one kind of values, if it is there;
* `RequiresNames`, `NodeTyped`, `WellTyped`: the members that are read have the kinds they are read at;
* `nodeTyped_iff`: what has to be looked at to tell that a node is typed;
* `HasType`: a schema that has a type;
* `asksForObject`, `ReadsRequired`: the type of a node depends on which members it requires;
* `exists_declared`, `declared_of_object_error`: what a declared type needs, and what fails with it;
* `hasType_of_node`, `typeText_of_required_error`: one node, given the types of its parts;
* `hasType_of_wellTyped`: every well-typed schema.
-/

namespace ApiView

/-! ## Kinds of members -/

namespace Entries

variable {α : Type} {make : α → Value} {entries : Entries} {name : String}

/-- The member of a name is of one kind of values, if it is there. -/
def MemberIs (make : α → Value) (entries : Entries) (name : String) : Prop :=
  ∀ v, entries.member? name = some v → ∃ a, v = make a

theorem memberIs_of_none (h : entries.member? name = none) : MemberIs make entries name := by
  intro v hv
  rw [h] at hv
  cases hv

theorem memberIs_of_some {a : α} (h : entries.member? name = some (make a)) :
    MemberIs make entries name := by
  intro v hv
  rw [h] at hv
  exact ⟨a, (Option.some.inj hv).symm⟩

theorem MemberIs.member (h : MemberIs make entries name) :
    entries.member name = .null ∨ ∃ a, entries.member name = make a := by
  unfold Entries.member
  cases hmember : entries.member? name with
  | none =>
      exact Or.inl rfl
  | some v =>
      exact Or.inr (h v hmember)

end Entries

namespace TypeText

/-! ## Well-typed schemas -/

/-- What a node says about required members is a list of names, if it says anything. -/
def RequiresNames (node : Entries) : Prop :=
  node.MemberIs (fun names : List String => .list (names.map .str)) "required"

/-- A reference is a pointer, JSON can be written of the values of an enumeration, and properties have names.
Whatever else a node holds may be of any kind. -/
structure NodeTyped (node : Entries) : Prop where
  reference : ∀ pointer, reference? node = some pointer →
    ∃ name, Reference.Pointer.name pointer = .ok name
  enumeration : ∀ values, enumeration? node = some values → ∀ v ∈ values, Json.obstacle? v = none
  properties : ∀ table, node.member? "properties" = some (.map table) →
    ∀ key ∈ Entries.keys table, ∃ name, key = .str name

/-- A schema whose nodes are typed and require names, as far as its type is made of them.  It does not contain
itself. -/
inductive WellTyped : Value → Prop
  | leaf {v : Value} : v.entries? = none → (∀ places, v ≠ .again true places) → WellTyped v
  | node {node : Entries} : NodeTyped node → RequiresNames node →
      (∀ part ∈ parts node, WellTyped part) → WellTyped (.map node)

/-- A schema that has a type. -/
def HasType (v : Value) : Prop :=
  ∃ type, typeText v = .ok type

variable {node : Entries} {e : Failure}

/-- What has to be looked at to tell that a node is typed. -/
theorem nodeTyped_iff : NodeTyped node ↔
    (reference? node).all (fun pointer => (Reference.Pointer.name pointer).toOption.isSome) = true ∧
      (enumeration? node).all (fun values => values.all fun v => (Json.obstacle? v).isNone) = true ∧
        ((node.member? "properties").bind Value.entries?).all
          (fun table => table.keys.all fun key => (Value.scalar key).text?.isSome) = true := by
  simp only [Option.all_eq_true, List.all_eq_true, Option.bind_eq_some_iff, Value.entries?_eq_some_iff,
    Option.isNone_iff_eq_none, Option.isSome_iff_exists]
  constructor
  · intro h
    refine ⟨fun pointer hpointer => ?_, h.enumeration, ?_⟩
    · obtain ⟨name, hname⟩ := h.reference pointer hpointer
      exact ⟨name, by rw [hname]; rfl⟩
    · -- A key that is a text is the key of a member.
      rintro table ⟨_, hproperties, rfl⟩ key hkey
      obtain ⟨name, rfl⟩ := h.properties table hproperties key hkey
      exact ⟨name, rfl⟩
  · rintro ⟨hreference, henumeration, hproperties⟩
    refine ⟨fun pointer hpointer => ?_, henumeration, fun table htable key hkey => ?_⟩
    · obtain ⟨name, hname⟩ := hreference pointer hpointer
      cases hresult : Reference.Pointer.name pointer with
      | error e =>
          rw [hresult] at hname
          cases hname
      | ok name' =>
          exact ⟨name', rfl⟩
    · obtain ⟨name, hname⟩ := hproperties table ⟨_, htable, rfl⟩ key hkey
      unfold Value.text? at hname
      split at hname
      · rename_i s hs
        exact ⟨s, Value.scalar.inj hs⟩
      · cases hname

instance : Decidable (NodeTyped node) :=
  decidable_of_iff _ nodeTyped_iff.symm

/-- A typed node is well-typed if the schemas that its type is made of are. -/
theorem wellTyped_of_parts {schemas : List Value} (htyped : NodeTyped node)
    (hrequires : RequiresNames node) (hparts : parts node = schemas)
    (hall : ∀ part ∈ schemas, WellTyped part) : WellTyped (.map node) := by
  subst hparts
  exact WellTyped.node htyped hrequires hall

/-- A node without parts is well typed if its own members are. -/
theorem wellTyped_of_no_parts (htyped : NodeTyped node) (hnone : node.member? "required" = none)
    (hparts : parts node = []) : WellTyped (.map node) :=
  wellTyped_of_parts htyped (Entries.memberIs_of_none hnone) hparts (List.forall_mem_nil _)

/-! ## Rows of schemas -/

/-- A schema that is cut off has no type. -/
theorem not_hasType_cut (places : List Nat) : ¬ HasType (.again true places) := by
  rintro ⟨type, htype⟩
  unfold typeText at htype
  cases htype

/-- Schemas that have types have them in a row. -/
theorem exists_types {schemas : List Value} (h : ∀ v ∈ schemas, HasType v) :
    ∃ types, typeTexts schemas = .ok types := by
  rw [typeTexts_eq_mapM]
  exact exists_ok_mapM h

theorem exists_literal {v : Value} (h : Json.obstacle? v = none) : ∃ text, literal v = .ok text := by
  rw [literal, h]
  exact ⟨_, rfl⟩

/-! ## Objects and arrays -/

/-- A name is written as it is, with a mark behind it or none. -/
theorem memberName_str (required : List Scalar) (name : String) :
    memberName required (.str name) =
      .ok ("'" ++ name ++ "'" ++ if required.any (·.same (.str name)) then "" else "?") := rfl

/-- Members whose schemas have types have texts. -/
theorem exists_memberTexts {required : List Scalar} {members : Entries}
    (hkeys : ∀ key ∈ members.keys, ∃ name, key = .str name)
    (htypes : ∀ v ∈ members.map (·.2), HasType v) :
    ∃ texts, memberTexts required members = .ok texts := by
  induction members with
  | nil =>
      exact ⟨[], by unfold memberTexts; rfl⟩
  | cons entry rest ih =>
      obtain ⟨key, v⟩ := entry
      obtain ⟨⟨name, rfl⟩, hkeys'⟩ := List.forall_mem_cons.1 hkeys
      obtain ⟨hv, htypes'⟩ := List.forall_mem_cons.1 htypes
      unfold memberTexts
      rw [memberName_str, ok_bind]
      exact exists_ok_bind hv fun type _ =>
        exists_ok_bind (ih hkeys' htypes') fun texts _ => ⟨_, rfl⟩

/-- A list of names tells which members are required, and so does a node that says nothing. -/
theorem exists_requiredKeys (h : RequiresNames node) : ∃ keys, requiredKeys node = .ok keys := by
  unfold requiredKeys Entries.member
  cases hrequired : node.member? "required" with
  | none =>
      exact ⟨[], rfl⟩
  | some v =>
      obtain ⟨names, rfl⟩ := h v hrequired
      have hkeys : (names.map Value.str).mapM Value.key =
          .ok (names.map fun name => some (Scalar.str name)) := by
        rw [mapM_eq_ok_iff, List.forall₂_map_left_iff, List.forall₂_map_right_iff, List.forall₂_same]
        exact fun name _ => rfl
      cases names with
      | nil =>
          exact ⟨[], rfl⟩
      | cons name names =>
          exact exists_ok_bind ⟨_, rfl⟩ fun items hitems => by
            cases hitems
            exact exists_ok_bind ⟨_, hkeys⟩ fun keys _ => ⟨_, rfl⟩

/-- An object has a type if its parts have, as long as it can be told which members it requires. -/
theorem exists_objectText (htyped : NodeTyped node) (hparts : ∀ part ∈ objectParts node, HasType part)
    (hrequired : ∀ p ps, node.member? "properties" = some (.map (p :: ps)) →
      ∃ keys, requiredKeys node = .ok keys) :
    ∃ text, objectText node = .ok text := by
  by_cases hproperties : ∃ p ps, node.member? "properties" = some (.map (p :: ps))
  · obtain ⟨p, ps, hproperties⟩ := hproperties
    unfold objectParts at hparts
    rw [hproperties] at hparts
    -- With members there are the names that are required, and the types of the members.
    rw [objectText_of_members hproperties]
    refine exists_ok_bind (hrequired p ps hproperties) fun keys _ => ?_
    exact exists_ok_bind (exists_memberTexts (htyped.properties _ hproperties) hparts) fun _ _ =>
      ⟨_, rfl⟩
  · have hnone : ∀ p ps, node.member? "properties" ≠ some (.map (p :: ps)) :=
      fun p ps hmap => hproperties ⟨p, ps, hmap⟩
    unfold objectParts at hparts
    split at hparts
    · rename_i p ps hmap
      exact absurd hmap (hnone p ps)
    · rename_i places _
      exact absurd (hparts _ (List.mem_singleton.2 rfl)) (not_hasType_cut places)
    · rename_i hcut
      -- Without members there is the type of further ones, if they have a schema.
      rw [objectText_of_no_members hnone hcut, indexText]
      cases hadditional : table? node "additionalProperties" with
      | none =>
          exact ⟨_, rfl⟩
      | some schema =>
          rw [hadditional] at hparts
          exact exists_ok_bind (hparts _ (List.mem_singleton.2 rfl)) fun _ _ => ⟨_, rfl⟩

/-- An object with members fails if its required names do. -/
theorem objectText_of_required_error {p : Scalar × Value} {ps : Entries}
    (hproperties : node.member? "properties" = some (.map (p :: ps)))
    (hrequired : requiredKeys node = .error e) : objectText node = .error e := by
  rw [objectText_of_members hproperties, hrequired]
  rfl

/-- An array has a type if its items have one. -/
theorem exists_arrayText (hparts : ∀ part ∈ (node.member? "items").toList, HasType part) :
    ∃ text, arrayText node = .ok text := by
  unfold arrayText
  cases hitems : node.member? "items" with
  | none =>
      exact ⟨_, rfl⟩
  | some items =>
      exact exists_ok_bind (hparts items (by rw [hitems]; exact List.mem_singleton.2 rfl)) fun _ _ =>
        ⟨_, rfl⟩

/-! ## Declared types -/

mutual

/-- Whether the object of a node is among its declared types. -/
def asksForObject (hasProperties : Bool) : Value → Bool
  | .list types => oneAsksForObject hasProperties types
  | .scalar .null => hasProperties
  | .scalar (.str name) => name == "object"
  | _ => false

/-- Whether the object of a node is among several declared types. -/
def oneAsksForObject (hasProperties : Bool) : List Value → Bool
  | [] => false
  | type :: rest => asksForObject hasProperties type || oneAsksForObject hasProperties rest

end

section Declared

variable {array object : Except Failure String} {arrayParts objectParts : List Value}
  {hasProperties : Bool}

mutual

/-- A declared type has a text if the array has one, and the object if it is asked for. -/
theorem exists_declared
    (harray : (∀ part ∈ arrayParts, HasType part) → ∃ text, array = .ok text) :
    ∀ type : Value,
      (asksForObject hasProperties type = true → (∀ part ∈ objectParts, HasType part) →
        ∃ text, object = .ok text) →
      (∀ part ∈ declaredParts arrayParts objectParts hasProperties type, HasType part) →
        ∃ text, declared array object hasProperties type = .ok text
  | .list types, hobject, hparts => by
      rw [declared]
      exact exists_ok_bind (exists_declaredAll harray types hobject hparts) fun _ _ => ⟨_, rfl⟩
  | .scalar .null, hobject, hparts => by
      cases hasProperties with
      | false =>
          exact ⟨_, rfl⟩
      | true =>
          exact hobject rfl hparts
  | .scalar (.str name), hobject, hparts => by
      unfold declared
      unfold declaredParts at hparts
      -- Only the names of the two containers ask for other types.
      by_cases hname : (name == "array") = true
      · rw [if_pos hname] at hparts ⊢
        exact harray hparts
      · rw [if_neg hname] at hparts ⊢
        by_cases hname' : (name == "object") = true
        · rw [if_pos hname'] at hparts ⊢
          exact hobject hname' hparts
        · rw [if_neg hname']
          exact ⟨_, rfl⟩
  | .scalar (.bool _), _, _ | .scalar (.int _), _, _ | .scalar (.float _), _, _
  | .scalar (.date _), _, _ | .scalar (.dateTime _), _, _ | .scalar (.bytes _), _, _
  | .map _, _, _ | .pair _ _, _, _ | .set _, _, _ | .again true _, _, _ =>
      ⟨_, rfl⟩
  | .again false places, _, hparts => by
      -- A list of types that is cut off counts among the parts, and it has no type.
      exact absurd (hparts _ (List.mem_singleton.2 rfl)) (not_hasType_cut places)

/-- Declared types are told if the parts that they ask for are. -/
theorem exists_declaredAll
    (harray : (∀ part ∈ arrayParts, HasType part) → ∃ text, array = .ok text) :
    ∀ types : List Value,
      (oneAsksForObject hasProperties types = true → (∀ part ∈ objectParts, HasType part) →
        ∃ text, object = .ok text) →
      (∀ part ∈ declaredPartsAll arrayParts objectParts hasProperties types, HasType part) →
        ∃ texts, declaredAll array object hasProperties types = .ok texts
  | [], _, _ =>
      ⟨[], rfl⟩
  | type :: rest, hobject, hparts => by
      obtain ⟨hfirst, hothers⟩ := List.forall_mem_append.1 hparts
      have htype := exists_declared harray type
        (fun hasks => hobject (by rw [oneAsksForObject, hasks, Bool.true_or])) hfirst
      have hrest := exists_declaredAll harray rest
        (fun hasks => hobject (by rw [oneAsksForObject, hasks, Bool.or_true])) hothers
      rw [declaredAll]
      exact exists_ok_bind htype fun _ _ => exists_ok_bind hrest fun _ _ => ⟨_, rfl⟩

end

mutual

/-- An object that fails fails every declared type that asks for it. -/
theorem declared_of_object_error
    (harray : (∀ part ∈ arrayParts, HasType part) → ∃ text, array = .ok text)
    (hobject : object = .error e) :
    ∀ type : Value, asksForObject hasProperties type = true →
      (∀ part ∈ declaredParts arrayParts objectParts hasProperties type, HasType part) →
        declared array object hasProperties type = .error e
  | .list types, hasks, hparts => by
      rw [declared, declaredAll_of_object_error harray hobject types hasks hparts]
      rfl
  | .scalar .null, hasks, _ => by
      obtain rfl : hasProperties = true := hasks
      exact hobject
  | .scalar (.str name), hasks, _ => by
      obtain rfl : name = "object" := by simpa [asksForObject] using hasks
      rw [declared]
      exact hobject
  | .scalar (.bool _), hasks, _ | .scalar (.int _), hasks, _ | .scalar (.float _), hasks, _
  | .scalar (.date _), hasks, _ | .scalar (.dateTime _), hasks, _ | .scalar (.bytes _), hasks, _
  | .map _, hasks, _ | .pair _ _, hasks, _ | .set _, hasks, _ | .again _ _, hasks, _ => by
      cases hasks

/-- Declared types that ask for an object fail if it does. -/
theorem declaredAll_of_object_error
    (harray : (∀ part ∈ arrayParts, HasType part) → ∃ text, array = .ok text)
    (hobject : object = .error e) :
    ∀ types : List Value, oneAsksForObject hasProperties types = true →
      (∀ part ∈ declaredPartsAll arrayParts objectParts hasProperties types, HasType part) →
        declaredAll array object hasProperties types = .error e
  | [], hasks, _ => by
      cases hasks
  | type :: rest, hasks, hparts => by
      obtain ⟨hfirst, hothers⟩ := List.forall_mem_append.1 hparts
      cases hhead : asksForObject hasProperties type with
      | true =>
          rw [declaredAll, declared_of_object_error harray hobject type hhead hfirst]
          rfl
      | false =>
          -- The types in front of the first one that asks for the object have texts.
          rw [oneAsksForObject, hhead, Bool.false_or] at hasks
          have hfails : asksForObject hasProperties type ≠ true := by
            rw [hhead]
            exact Bool.false_ne_true
          have htype : ∃ text, declared array object hasProperties type = .ok text :=
            exists_declared harray type (fun hasks' => absurd hasks' hfails) hfirst
          obtain ⟨text, htext⟩ := htype
          rw [declaredAll, htext, ok_bind, declaredAll_of_object_error harray hobject rest hasks hothers]
          rfl

end

end Declared

/-! ## Nodes -/

/-- The type of a node depends on which members it requires: the object of the node is among its declared
types, and has members. -/
def ReadsRequired (node : Entries) : Prop :=
  ∃ type p ps, form node = .declared type ∧
    asksForObject (node.hasMember "properties") type = true ∧
    node.member? "properties" = some (.map (p :: ps))

/-- A node that is put together has a type if its structure has one. -/
theorem hasType_of_structure (hstructure : (form node).isStructure = true)
    (h : ∃ text, structureText node = .ok text) : HasType (.map node) := by
  rw [HasType, typeText_of_structure hstructure]
  exact exists_ok_bind h fun _ _ => ⟨_, rfl⟩

/-- A typed node has a type if its parts have, as long as it can be told which members it requires where that
is asked. -/
theorem hasType_of_node (htyped : NodeTyped node) (hparts : ∀ part ∈ parts node, HasType part)
    (hrequired : ReadsRequired node → ∃ keys, requiredKeys node = .ok keys) :
    HasType (.map node) := by
  rw [parts_of_form] at hparts
  cases hform : form node with
  | schema inner =>
      rw [hform] at hparts
      obtain ⟨type, htype⟩ := hparts inner (List.mem_singleton.2 rfl)
      exact ⟨type, (typeText_of_schema hform).trans htype⟩
  | reference pointer =>
      obtain ⟨name, hname⟩ := htyped.reference pointer (form_eq_reference_iff.1 hform)
      exact ⟨name, (typeText_of_reference hform).trans hname⟩
  | enumeration values =>
      obtain ⟨hstructure, henum⟩ := form_eq_enumeration_iff.1 hform
      refine hasType_of_structure hstructure ?_
      rw [structureText_of_enumeration hform]
      exact exists_ok_bind
        (exists_ok_mapM fun v hv => exists_literal (htyped.enumeration values henum v hv))
        fun _ _ => ⟨_, rfl⟩
  | composition separator members =>
      rw [hform] at hparts
      refine hasType_of_structure (form_eq_composition_iff.1 hform).1 ?_
      rw [structureText_of_composition hform]
      exact exists_ok_bind (exists_types hparts) fun _ _ => ⟨_, rfl⟩
  | declared type =>
      rw [hform] at hparts
      refine hasType_of_structure (form_eq_declared_iff.1 hform).1 ?_
      rw [structureText_of_declared hform]
      -- Only an object reads its required names, and only if it has members.
      refine exists_declared exists_arrayText type (fun hasks hobject => ?_) hparts
      exact exists_objectText htyped hobject fun p ps hproperties =>
        hrequired ⟨type, p, ps, hform, hasks, hproperties⟩

/-- Where it cannot be told which members are required, the node fails. -/
theorem typeText_of_required_error (hparts : ∀ part ∈ parts node, HasType part)
    (hreads : ReadsRequired node) (hrequired : requiredKeys node = .error e) :
    typeText (.map node) = .error e := by
  obtain ⟨type, p, ps, hform, hasks, hproperties⟩ := hreads
  rw [parts_of_form, hform] at hparts
  have hobject := objectText_of_required_error hproperties hrequired
  rw [typeText_of_structure (form_eq_declared_iff.1 hform).1, structureText_of_declared hform,
    declared_of_object_error exists_arrayText hobject type hasks hparts]
  rfl

/-- Every well-typed schema has a type. -/
theorem hasType_of_wellTyped {v : Value} (h : WellTyped v) : HasType v := by
  -- The induction goes down the parts that the type is made of.
  induction h with
  | @leaf v hleaf hends =>
      refine ⟨"any", ?_⟩
      unfold typeText
      split
      · cases hleaf
      · rename_i places
        exact absurd rfl (hends places)
      · rfl
  | node htyped hrequires _ ih =>
      exact hasType_of_node htyped ih fun _ => exists_requiredKeys hrequires

end TypeText
end ApiView
