import ApiView.Proofs.Schema.Forms

/-!
# Nullability — two spellings of one type

A schema says that it may be null in one of two ways: by `nullable` beside its type, or by listing null among
its types.  The first spelling adds null to the type when all else is put together; the second one puts the
node together once for each type that is listed.  A whole tree may be taken from the first spelling to the
second one without a change to its type:

* `Slot`, `slotOf`, `subschemas`: where the schemas of a node stand;
* `listNull`, `respell`: null as one of the types of a node, and of each schema of a tree;
* `SpelledAlike`: nodes that differ in what they say about null, and in how their schemas are spelled;
* `SpelledAlike.form`, `SpelledAlike.arrayText`, `SpelledAlike.objectText`: such nodes have one form, and the
  same arrays and objects if their schemas have the same types;
* `typeText_respellMembers`, `typeText_listNull`: a node that is not nullable, and one that is;
* `NullableByType`: trees in which only nodes with a declared type are nullable;
* `typeText_respell`: the type of such a tree, which stays what it is.
-/

namespace ApiView
namespace TypeText

/-! ## Places of schemas -/

/-- What a member of a node holds: one schema, a list of them, a table of them by name, or none. -/
inductive Slot
  | schema
  | schemas
  | table
  | data

/-- What the member under a key holds. -/
def slotOf : Scalar → Slot
  | .str "schema" | .str "items" | .str "additionalProperties" => .schema
  | .str "allOf" | .str "oneOf" | .str "anyOf" => .schemas
  | .str "properties" => .table
  | _ => .data

/-- The schemas in a member. -/
def schemasIn : Slot → Value → List Value
  | .schema, v => [v]
  | .schemas, .list members => members
  | .table, .map entries => entries.map (·.2)
  | _, _ => []

/-- The schemas in a node, whether or not its type is made of them. -/
def subschemas (node : Entries) : List Value :=
  node.flatMap fun entry => schemasIn (slotOf entry.1) entry.2

/-! ## The other spelling -/

/-- Whether a node is marked as nullable. -/
def isNullable (node : Entries) : Bool :=
  (node.member "nullable").isTrue

/-- A node with null among its types, if it has been marked as nullable and has one type. -/
def listNull (node : Entries) : Entries :=
  match isNullable node, node.member? "type" with
  | true, some (.scalar (.str type)) =>
    Entries.put (.str "type") (.list [.str type, .str "null"])
      (node.filter fun entry => entry.1 != .str "nullable")
  | _, _ => node

mutual

/-- A member, spelled with null among the types of each schema in it. -/
def respellIn : Slot → Value → Value
  | .schema, .map node => .map (listNull (respellMembers node))
  | .schemas, .list members => .list (respellItems members)
  | .table, .map entries => .map (respellTable entries)
  | _, v => v

/-- The members of a node. -/
def respellMembers : List (Scalar × Value) → List (Scalar × Value)
  | [] => []
  | (key, v) :: rest => (key, respellIn (slotOf key) v) :: respellMembers rest

/-- The schemas of a list. -/
def respellItems : List Value → List Value
  | [] => []
  | v :: rest => respellIn .schema v :: respellItems rest

/-- The schemas of a table. -/
def respellTable : List (Scalar × Value) → List (Scalar × Value)
  | [] => []
  | (name, v) :: rest => (name, respellIn .schema v) :: respellTable rest

end

/-- A schema with null among the types of each nullable node of it. -/
def respell (v : Value) : Value :=
  respellIn .schema v

/-- A mapping is respelled member by member, and then at its own type. -/
theorem respell_map (node : Entries) : respell (.map node) = .map (listNull (respellMembers node)) := by
  rw [respell, respellIn]

theorem respell_of_leaf {v : Value} : v.entries? = none → respell v = v := by
  intro h
  cases v with
  | map node =>
      cases h
  | _ =>
      rw [respell, respellIn]
      all_goals simp

theorem respellItems_eq_map (members : List Value) : respellItems members = members.map respell := by
  induction members with
  | nil =>
      rw [respellItems, List.map_nil]
  | cons v rest ih =>
      rw [respellItems, List.map_cons, ih, respell]

/-- A member is respelled by the place that it stands at. -/
theorem member?_respellMembers (node : Entries) (name : String) :
    Entries.member? (respellMembers node) name =
      (node.member? name).map (respellIn (slotOf (.str name))) := by
  induction node with
  | nil =>
      rw [respellMembers]
      rfl
  | cons entry rest ih =>
      obtain ⟨key, v⟩ := entry
      rw [respellMembers]
      by_cases hkey : key = .str name
      · subst hkey
        rw [Entries.member?_cons_self, Entries.member?_cons_self, Option.map_some]
      · rw [Entries.member?_cons_of_ne hkey, Entries.member?_cons_of_ne hkey, ih]

theorem respellIn_data (v : Value) : respellIn .data v = v := by
  rw [respellIn]
  all_goals simp

theorem map_respellIn_of_data {key : Scalar} (hslot : slotOf key = .data) (found : Option Value) :
    found.map (respellIn (slotOf key)) = found := by
  cases found with
  | none =>
      rfl
  | some v =>
      rw [hslot, Option.map_some, respellIn_data]

/-! ## Nodes that are spelled alike -/

variable {node node' : Entries} {pointer separator text : String} {members values : List Value}
  {inner type : Value}

/-- Nodes with the same members up to how the schemas in them are spelled.  What the nodes say about null is
left out. -/
def SpelledAlike (node node' : Entries) : Prop :=
  ∀ name, name ≠ "type" → name ≠ "nullable" →
    node'.member? name = (node.member? name).map (respellIn (slotOf (.str name)))

/-- Respelling the members of a node keeps what its type is told by. -/
theorem spelledAlike_respellMembers (node : Entries) : SpelledAlike node (respellMembers node) :=
  fun name _ _ => member?_respellMembers node name

/-- Listing null in a type changes no members but the type and the mark of null. -/
theorem member?_listNull {name : String} (htype : name ≠ "type") (hnull : name ≠ "nullable")
    (node : Entries) : (listNull node).member? name = node.member? name := by
  unfold listNull
  split
  · rw [Entries.member?_put_of_ne htype.symm]
    exact Entries.member?_filter (· != .str "nullable") (by simpa using hnull) node
  · rfl

/-- Respelling a node keeps what its type is told by. -/
theorem spelledAlike_listNull (node : Entries) :
    SpelledAlike node (listNull (respellMembers node)) := by
  intro name htype hnull
  rw [member?_listNull htype hnull, member?_respellMembers]

/-- The schemas in a member of a node are schemas in the node. -/
theorem mem_subschemas {name : String} {v part : Value} (hmember : node.member? name = some v) :
    part ∈ schemasIn (slotOf (.str name)) v → part ∈ subschemas node :=
  fun hpart => List.mem_flatMap.2 ⟨(.str name, v), Entries.mem_of_member? hmember, hpart⟩

/-- A form, with its schemas in the other spelling and another declared type. -/
def Form.respelled (type : Value) : Form → Form
  | .schema inner => .schema (respell inner)
  | .reference pointer => .reference pointer
  | .enumeration values => .enumeration values
  | .composition separator members => .composition separator (members.map respell)
  | .declared _ => .declared type

/-- Respelling keeps structures apart from other forms. -/
theorem Form.isStructure_respelled (type : Value) (f : Form) :
    (f.respelled type).isStructure = f.isStructure := by
  cases f <;> rfl

theorem mem_subschemas_of_schema (h : form node = .schema inner) : inner ∈ subschemas node :=
  mem_subschemas (Option.filter_eq_some_iff.1 (form_eq_schema_iff.1 h)).1 (List.mem_singleton.2 rfl)

/-- A schema that has the same type in the other spelling. -/
def KeepsType (v : Value) : Prop :=
  typeText (respell v) = typeText v

theorem keepsType_of_leaf {v : Value} (h : v.entries? = none) : KeepsType v := by
  rw [KeepsType, respell_of_leaf h]

/-- The schemas that are joined keep their types if the schemas in the node do. -/
theorem keepsType_of_someItems? {name : String} {part : Value}
    (h : someItems? node name = some members) (hslot : slotOf (.str name) = .schemas)
    (hparts : ∀ part ∈ subschemas node, KeepsType part) : part ∈ members → KeepsType part := by
  intro hpart
  unfold someItems? at h
  split at h
  · rename_i v rest hmember
    cases h
    exact hparts part (mem_subschemas hmember (by rw [hslot]; exact hpart))
  · cases h
    obtain rfl := List.mem_singleton.1 hpart
    exact keepsType_of_leaf rfl
  · cases h

/-- The members of a composition keep their types if all schemas of a node do. -/
theorem keepsType_of_composition {part : Value} (h : form node = .composition separator members)
    (hparts : ∀ part ∈ subschemas node, KeepsType part) : part ∈ members → KeepsType part := by
  intro hpart
  have hcomposition := (form_eq_composition_iff.1 h).2.2
  unfold composition? at hcomposition
  split at hcomposition
  · rename_i hmembers
    cases hcomposition
    exact keepsType_of_someItems? hmembers rfl hparts hpart
  · rename_i hmembers
    cases hcomposition
    exact keepsType_of_someItems? hmembers rfl hparts hpart
  · rename_i hmembers
    cases hcomposition
    exact keepsType_of_someItems? hmembers rfl hparts hpart
  · cases hcomposition

/-- Schemas that keep their types keep them in a row. -/
theorem typeTexts_respell (h : ∀ m ∈ members, KeepsType m) :
    typeTexts (members.map respell) = typeTexts members := by
  induction members with
  | nil =>
      rfl
  | cons v rest ih =>
      obtain ⟨hv, hrest⟩ := List.forall_mem_cons.1 h
      unfold KeepsType at hv
      rw [List.map_cons]
      unfold typeTexts
      rw [hv, ih hrest]

/-- Members that keep their types keep their texts. -/
theorem memberTexts_respell {required : List Scalar} {entries : Entries}
    (h : ∀ v ∈ entries.map (·.2), KeepsType v) :
    memberTexts required (respellTable entries) = memberTexts required entries := by
  induction entries with
  | nil =>
      rw [respellTable]
  | cons entry rest ih =>
      obtain ⟨name, v⟩ := entry
      obtain ⟨hv, hrest⟩ := List.forall_mem_cons.1 h
      unfold KeepsType respell at hv
      rw [respellTable]
      unfold memberTexts
      rw [hv, ih hrest]

namespace SpelledAlike

variable (h : SpelledAlike node node')

include h

/-- Members that hold no schemas are the same. -/
theorem member?_of_data {name : String} (htype : name ≠ "type") (hnull : name ≠ "nullable")
    (hslot : slotOf (.str name) = .data) : node'.member? name = node.member? name := by
  rw [h name htype hnull, map_respellIn_of_data hslot]

theorem table? {name : String} (htype : name ≠ "type") (hnull : name ≠ "nullable")
    (hslot : slotOf (.str name) = .schema) :
    TypeText.table? node' name = (TypeText.table? node name).map respell := by
  unfold TypeText.table?
  rw [h name htype hnull, hslot]
  cases node.member? name with
  | none =>
      rfl
  | some v =>
      cases v with
      | map inner =>
          rw [Option.map_some, ← respell, respell_map]
          exact congrArg some (respell_map inner).symm
      | again isMap places =>
          cases isMap <;> rfl
      | _ =>
          rfl

theorem innerSchema? :
    TypeText.innerSchema? node' = (TypeText.innerSchema? node).map respell :=
  h.table? (by decide) (by decide) rfl

theorem reference? : TypeText.reference? node' = TypeText.reference? node := by
  have hmember : (Value.map node').member? "$ref" = (Value.map node).member? "$ref" :=
    h.member?_of_data (by decide) (by decide) rfl
  unfold TypeText.reference? Reference.pointer?
  rw [h.innerSchema?, Option.isSome_map, hmember]

theorem enumeration? : TypeText.enumeration? node' = TypeText.enumeration? node := by
  have hmember : node'.member? "enum" = node.member? "enum" :=
    h.member?_of_data (by decide) (by decide) rfl
  unfold TypeText.enumeration?
  rw [hmember]

theorem someItems? {name : String} (htype : name ≠ "type") (hnull : name ≠ "nullable")
    (hslot : slotOf (.str name) = .schemas) :
    TypeText.someItems? node' name = (TypeText.someItems? node name).map (List.map respell) := by
  unfold TypeText.someItems?
  rw [h name htype hnull, hslot]
  cases node.member? name with
  | none =>
      rfl
  | some v =>
      cases v with
      | list members =>
          rw [Option.map_some, respellIn, respellItems_eq_map]
          cases members <;> rfl
      | again isMap places =>
          cases isMap <;> rfl
      | _ =>
          rfl

theorem composition? :
    TypeText.composition? node' =
      (TypeText.composition? node).map fun found => (found.1, found.2.map respell) := by
  unfold TypeText.composition?
  rw [h.someItems? (by decide) (by decide) rfl, h.someItems? (by decide) (by decide) rfl,
    h.someItems? (by decide) (by decide) rfl]
  cases TypeText.someItems? node "allOf" <;> cases TypeText.someItems? node "oneOf" <;>
    cases TypeText.someItems? node "anyOf" <;> rfl

/-- Nodes that are spelled alike have one form, but for the type that they declare. -/
theorem form :
    TypeText.form node' = (TypeText.form node).respelled (node'.member "type") := by
  unfold TypeText.form
  rw [h.innerSchema?, h.reference?, h.enumeration?, h.composition?]
  cases TypeText.innerSchema? node <;> cases TypeText.reference? node <;>
    cases TypeText.enumeration? node <;> cases TypeText.composition? node <;> rfl

/-- They have the same arrays. -/
theorem arrayText (hparts : ∀ part ∈ subschemas node, KeepsType part) :
    TypeText.arrayText node' = TypeText.arrayText node := by
  have hmember : node'.member? "items" = (node.member? "items").map respell :=
    h "items" (by decide) (by decide)
  unfold TypeText.arrayText
  rw [hmember]
  cases hitems : node.member? "items" with
  | none =>
      rfl
  | some items =>
      have hkeeps : KeepsType items := hparts items (mem_subschemas hitems (List.mem_singleton.2 rfl))
      unfold KeepsType at hkeeps
      rw [Option.map_some]
      simp only [hkeeps]

theorem requiredKeys : TypeText.requiredKeys node' = TypeText.requiredKeys node := by
  have hmember : node'.member? "required" = node.member? "required" :=
    h.member?_of_data (by decide) (by decide) rfl
  unfold TypeText.requiredKeys Entries.member
  rw [hmember]

/-- They have the same index signatures. -/
theorem indexText (hparts : ∀ part ∈ subschemas node, KeepsType part) :
    TypeText.indexText node' = TypeText.indexText node := by
  have hmember : node'.member? "additionalProperties" =
      (node.member? "additionalProperties").map respell :=
    h "additionalProperties" (by decide) (by decide)
  -- A mapping is respelled to a mapping, and everything else is left as it is.
  have htrue : (node'.member "additionalProperties").isTrue =
      (node.member "additionalProperties").isTrue := by
    rw [Entries.member, Entries.member, hmember]
    cases node.member? "additionalProperties" with
    | none =>
        rfl
    | some v =>
        cases v <;> rfl
  unfold TypeText.indexText
  rw [h.table? (by decide) (by decide) rfl, htrue]
  cases hadditional : TypeText.table? node "additionalProperties" with
  | none =>
      rfl
  | some v =>
      have hkeeps : KeepsType v := hparts v
        (mem_subschemas (Option.filter_eq_some_iff.1 hadditional).1 (List.mem_singleton.2 rfl))
      unfold KeepsType at hkeeps
      rw [Option.map_some]
      simp only [hkeeps]

/-- They have the same objects. -/
theorem objectText (hparts : ∀ part ∈ subschemas node, KeepsType part) :
    TypeText.objectText node' = TypeText.objectText node := by
  have hmember : node'.member? "properties" = (node.member? "properties").map (respellIn .table) :=
    h "properties" (by decide) (by decide)
  by_cases hproperties : ∃ p ps, node.member? "properties" = some (.map (p :: ps))
  · obtain ⟨⟨name, v⟩, ps, hproperties⟩ := hproperties
    have hkeeps : ∀ part ∈ ((name, v) :: ps).map (·.2), KeepsType part :=
      fun part hpart => hparts part (mem_subschemas hproperties hpart)
    have hrespelled : node'.member? "properties" =
        some (.map ((name, respell v) :: respellTable ps)) := by
      rw [hmember, hproperties, Option.map_some, respellIn, respellTable, respell]
    rw [objectText_of_members hproperties, objectText_of_members hrespelled, h.requiredKeys]
    simp only [← memberTexts_respell hkeeps, respellTable, respell]
  · by_cases hcut : ∃ places, node.member? "properties" = some (.again true places)
    · obtain ⟨places, hcut⟩ := hcut
      have hcut' : node'.member? "properties" = some (.again true places) := by
        rw [hmember, hcut]
        rfl
      rw [objectText_of_cut hcut, objectText_of_cut hcut']
    have hnone : ∀ p ps, node.member? "properties" ≠ some (.map (p :: ps)) :=
      fun p ps hmap => hproperties ⟨p, ps, hmap⟩
    have hnone' : ∀ p ps, node'.member? "properties" ≠ some (.map (p :: ps)) := by
      intro p ps hmap
      rw [hmember] at hmap
      obtain ⟨v, hv, hrespelled⟩ := Option.map_eq_some_iff.1 hmap
      -- A table keeps its length, and what is no table stays what it is.
      cases v with
      | map entries =>
          cases entries with
          | nil =>
              rw [respellIn, respellTable] at hrespelled
              cases hrespelled
          | cons q qs =>
              exact hnone q qs hv
      | _ =>
          cases hrespelled
    have hcut' : ∀ places, node'.member? "properties" ≠ some (.again true places) := by
      intro places hagain
      rw [hmember] at hagain
      obtain ⟨v, hv, hrespelled⟩ := Option.map_eq_some_iff.1 hagain
      cases v with
      | again isMap places' =>
          cases hrespelled
          exact hcut ⟨places, hv⟩
      | _ =>
          cases hrespelled
    rw [objectText_of_no_members hnone fun places hagain => hcut ⟨places, hagain⟩,
      objectText_of_no_members hnone' hcut', h.indexText hparts]

/-- They are put together alike, whatever type they declare. -/
theorem declared (hparts : ∀ part ∈ subschemas node, KeepsType part) (type : Value) :
    TypeText.declared (TypeText.arrayText node') (TypeText.objectText node')
        (node'.hasMember "properties") type =
      TypeText.declared (TypeText.arrayText node) (TypeText.objectText node)
        (node.hasMember "properties") type := by
  have hhas : node'.hasMember "properties" = node.hasMember "properties" := by
    rw [Entries.hasMember, h "properties" (by decide) (by decide), Option.isSome_map]
    rfl
  rw [h.arrayText hparts, h.objectText hparts, hhas]

/-- They are put together alike, unless they declare different types. -/
theorem structureText (hparts : ∀ part ∈ subschemas node, KeepsType part)
    (hstructure : (TypeText.form node).isStructure = true)
    (htype : node'.member "type" = node.member "type") :
    TypeText.structureText node' = TypeText.structureText node := by
  have hform' := h.form
  cases hform : TypeText.form node with
  | schema inner =>
      rw [hform] at hstructure
      cases hstructure
  | reference pointer =>
      rw [hform] at hstructure
      cases hstructure
  | enumeration values =>
      rw [hform, Form.respelled] at hform'
      rw [structureText_of_enumeration hform, structureText_of_enumeration hform']
  | composition separator members =>
      rw [hform, Form.respelled] at hform'
      have hkeeps : ∀ m ∈ members, KeepsType m :=
        fun m hm => keepsType_of_composition hform hparts hm
      rw [structureText_of_composition hform, structureText_of_composition hform',
        typeTexts_respell hkeeps]
  | declared type =>
      rw [hform, Form.respelled, htype, (form_eq_declared_iff.1 hform).2.2.2] at hform'
      rw [structureText_of_declared hform, structureText_of_declared hform', h.declared hparts]

end SpelledAlike

/-! ## Nodes that are not nullable -/

/-- A schema that is not nullable is left alone. -/
theorem listNull_of_not_nullable (h : isNullable node = false) : listNull node = node := by
  rw [listNull, h]

theorem member_respellMembers {name : String} (hslot : slotOf (.str name) = .data) (node : Entries) :
    Entries.member (respellMembers node) name = node.member name := by
  unfold Entries.member
  rw [member?_respellMembers, map_respellIn_of_data hslot]

theorem isNullable_respellMembers (node : Entries) :
    isNullable (respellMembers node) = isNullable node := by
  unfold isNullable
  rw [member_respellMembers rfl]

/-- Where only what stands in a node is spelled in another way, the node keeps its type. -/
theorem typeText_respellMembers (hparts : ∀ part ∈ subschemas node, KeepsType part) :
    typeText (.map (respellMembers node)) = typeText (.map node) := by
  have halike := spelledAlike_respellMembers node
  have hform' := halike.form
  by_cases hstructure : (form node).isStructure = true
  · have hstructure' : (form (respellMembers node)).isStructure = true := by
      rw [hform', Form.isStructure_respelled, hstructure]
    rw [typeText_of_structure hstructure, typeText_of_structure hstructure',
      halike.structureText hparts hstructure (member_respellMembers rfl node),
      member_respellMembers rfl]
  · cases hform : form node with
    | schema inner =>
        rw [hform, Form.respelled] at hform'
        have hkeeps : KeepsType inner := hparts _ (mem_subschemas_of_schema hform)
        rw [KeepsType] at hkeeps
        rw [typeText_of_schema hform, typeText_of_schema hform', hkeeps]
    | reference pointer =>
        rw [hform, Form.respelled] at hform'
        rw [typeText_of_reference hform, typeText_of_reference hform']
    | _ =>
        rw [hform] at hstructure
        exact absurd rfl hstructure

/-! ## Nullable nodes -/

section Declared

variable {array object : Except Failure String} {hasProperties : Bool}

/-- A type and null, one listed behind the other. -/
theorem declared_and_null (name : String) :
    declared array object hasProperties (.list [.str name, .str "null"]) =
      declared array object hasProperties (.str name) >>= fun type => .ok (type ++ " | null") := by
  have hnull : declared array object hasProperties (.str "null") = .ok "null" := rfl
  rw [declared]
  simp only [declaredAll, hnull]
  cases declared array object hasProperties (.str name) with
  | error e =>
      rfl
  | ok type =>
      have hunion : " | ".intercalate [type, "null"] = type ++ " | null" :=
        String.append_assoc
      have hnonempty : (type ++ " | null" == "") = false := by
        simp
      simp only [ok_bind, pure, Except.pure, hunion, hnonempty, Bool.false_eq_true, if_false]

end Declared

/-- Arrays have a name of their own. -/
theorem head?_arrayText : arrayText node = .ok text → text.toList.head? = some 'A' := by
  intro h
  have hhead : ∀ items, ("Array<" ++ items ++ ">").toList.head? = some 'A' := by
    intro items
    rw [String.toList_append, String.toList_append]
    rfl
  unfold arrayText at h
  split at h
  all_goals
    simp only [bind_eq_ok_iff, pure_eq_ok_iff] at h
    obtain ⟨items, _, rfl⟩ := h
    exact hhead items

/-- Objects stand in braces. -/
theorem head?_objectText : objectText node = .ok text → text.toList.head? = some '\x7b' := by
  intro h
  unfold objectText at h
  split at h
  · simp only [bind_eq_ok_iff, pure_eq_ok_iff] at h
    obtain ⟨required, _, types, _, rfl⟩ := h
    rw [String.toList_append, String.toList_append]
    rfl
  · cases h
  · split at h
    · simp only [bind_eq_ok_iff, pure_eq_ok_iff] at h
      obtain ⟨type, _, rfl⟩ := h
      rw [String.toList_append, String.toList_append]
      rfl
    · cases h
      split <;> rfl

/-- A declared type is neither that of anything nor null if its name is that of neither. -/
theorem ne_of_declared {name : String} (hany : primitive name ≠ "any")
    (hnull : primitive name ≠ "null") {hasProperties : Bool} :
    declared (arrayText node) (objectText node) hasProperties (.str name) = .ok text →
      text ≠ "any" ∧ text ≠ "null" := by
  intro h
  -- Arrays and objects are told from both words by their first character.
  have hhead : ∀ {c word}, text.toList.head? = some c → word.toList.head? ≠ some c → text ≠ word := by
    rintro c word htext hword rfl
    exact hword htext
  rw [Value.str, declared] at h
  split at h
  · have htext := head?_arrayText h
    exact ⟨hhead htext (by decide), hhead htext (by decide)⟩
  · split at h
    · have htext := head?_objectText h
      exact ⟨hhead htext (by decide), hhead htext (by decide)⟩
    · cases h
      exact ⟨hany, hnull⟩

/-- A nullable node with one declared type lists that type and null in the other spelling, and is not marked
as nullable any more. -/
theorem listNull_of_nullable {name : String} (hnullable : isNullable node = true)
    (htype : node.member? "type" = some (.str name)) :
    (listNull node).member "type" = .list [.str name, .str "null"] ∧
      isNullable (listNull node) = false := by
  have hlisted : listNull node = Entries.put (.str "type") (.list [.str name, .str "null"])
      (node.filter fun entry => entry.1 != .str "nullable") := by
    rw [listNull, hnullable, htype]
    rfl
  constructor
  · rw [hlisted, Entries.member, Entries.member?_put_self, Option.getD_some]
  · have hdropped : Entries.member? (node.filter fun entry => entry.1 != .str "nullable")
        "nullable" = none := by
      rw [Entries.member?_eq_none_iff]
      intro hmem
      obtain ⟨entry, hentry, hkey⟩ := List.mem_map.1 hmem
      have hkept := (List.mem_filter.1 hentry).2
      rw [hkey] at hkept
      simp at hkept
    rw [hlisted, isNullable, Entries.member, Entries.member?_put_of_ne (by decide), hdropped]
    rfl

/-- The mark adds null behind a declared type that is neither that of anything nor null. -/
theorem declared_and_mark {name : String} (hany : primitive name ≠ "any")
    (hnull : primitive name ≠ "null") (hasProperties : Bool) :
    (declared (arrayText node) (objectText node) hasProperties (.str name) >>= fun type =>
        .ok (withNull true type)) =
      declared (arrayText node) (objectText node) hasProperties (.str name) >>= fun type =>
        .ok (type ++ " | null") := by
  cases htext : declared (arrayText node) (objectText node) hasProperties (.str name) with
  | error e =>
      rfl
  | ok text =>
      obtain ⟨hany', hnull'⟩ := ne_of_declared hany hnull htext
      simp [withNull, ok_bind, hany', hnull']

theorem member?_type_of_form {name : String} (hform : form node = .declared (.str name)) :
    node.member? "type" = some (.str name) := by
  have hmember := (form_eq_declared_iff.1 hform).2.2.2
  rw [Entries.member] at hmember
  cases hfound : node.member? "type" with
  | none =>
      rw [hfound] at hmember
      cases hmember
  | some v =>
      rw [hfound, Option.getD_some] at hmember
      rw [hmember]

/-- A nullable node with one declared type keeps its type: null is added by the list of types where the mark
has added it. -/
theorem typeText_listNull {name : String} (hparts : ∀ part ∈ subschemas node, KeepsType part)
    (hnullable : isNullable node = true) (hform : form node = .declared (.str name))
    (hany : primitive name ≠ "any") (hnull : primitive name ≠ "null") :
    typeText (.map (listNull (respellMembers node))) = typeText (.map node) := by
  have halike := spelledAlike_listNull node
  -- Respelling the members of a node does not touch its own type yet.
  have htype : Entries.member? (respellMembers node) "type" = some (.str name) := by
    rw [member?_respellMembers, map_respellIn_of_data rfl]
    exact member?_type_of_form hform
  obtain ⟨hlisted, hunmarked⟩ := listNull_of_nullable
    ((isNullable_respellMembers node).trans hnullable) htype
  have hform' := halike.form
  rw [hform, Form.respelled, hlisted] at hform'
  have hstructure : (form node).isStructure = true := by
    rw [hform]
    rfl
  have hstructure' : (form (listNull (respellMembers node))).isStructure = true := by
    rw [hform']
    rfl
  rw [isNullable] at hnullable hunmarked
  -- A second type in the list and the mark of null come to the same text.
  calc typeText (.map (listNull (respellMembers node)))
      = declared (arrayText node) (objectText node) (node.hasMember "properties")
          (.list [.str name, .str "null"]) >>= fun type => .ok (withNull false type) := by
        rw [typeText_of_structure hstructure', structureText_of_declared hform', halike.declared hparts,
          hunmarked]
    _ = declared (arrayText node) (objectText node) (node.hasMember "properties") (.str name) >>=
          fun type => .ok (type ++ " | null") := by
        rw [declared_and_null, bind_assoc]
        rfl
    _ = declared (arrayText node) (objectText node) (node.hasMember "properties") (.str name) >>=
          fun type => .ok (withNull true type) :=
        (declared_and_mark hany hnull _).symm
    _ = typeText (.map node) := by
        rw [typeText_of_structure hstructure, structureText_of_declared hform, hnullable]

/-! ## Trees -/

/-- Every nullable node of a tree declares one type, which has room for null: it has no other form, and the
type is neither that of anything nor null.  Arrays and objects have such a type. -/
inductive NullableByType : Value → Prop
  | leaf {v : Value} : v.entries? = none → NullableByType v
  | node {node : Entries} :
      (isNullable node = true → ∃ name, form node = .declared (.str name) ∧
        primitive name ≠ "any" ∧ primitive name ≠ "null") →
      (∀ part ∈ subschemas node, NullableByType part) → NullableByType (.map node)

/-- A tree in which only nodes with a declared type are nullable keeps its type, or the reason why it has
none, when null is listed among the types of each nullable node. -/
theorem typeText_respell {v : Value} (h : NullableByType v) : typeText (respell v) = typeText v := by
  -- The induction goes down all schemas of a node, so that the parts of its type keep theirs.
  induction h with
  | leaf hleaf =>
      rw [respell_of_leaf hleaf]
  | @node node hnullable _ ih =>
      rw [respell_map]
      cases hmarked : isNullable node with
      | false =>
          rw [listNull_of_not_nullable ((isNullable_respellMembers node).trans hmarked)]
          exact typeText_respellMembers ih
      | true =>
          obtain ⟨name, hform, hany, hnull⟩ := hnullable hmarked
          exact typeText_listNull ih hmarked hform hany hnull

/-- A nullable object, with nullable schemas in a table, a list and an array.  One member is called like the
mark. -/
def markedTree : Value :=
  .object
    [("type", .str "object"), ("nullable", .bool true), ("required", .list [.str "id"]),
      ("properties", .object
        [("id", .object [("nullable", .bool true), ("type", .str "integer")]),
          ("nullable", .object [("type", .str "array"), ("nullable", .bool true),
            ("items", .object [("type", .str "Pet"), ("nullable", .bool true)])]),
          ("both", .object [("allOf", .list
            [.object [("$ref", .str "#/definitions/A")],
              .object [("type", .str "string"), ("nullable", .bool true)]])])])]

/-- The same object with null among the types. -/
def listedTree : Value :=
  .object
    [("type", .list [.str "object", .str "null"]), ("required", .list [.str "id"]),
      ("properties", .object
        [("id", .object [("type", .list [.str "integer", .str "null"])]),
          ("nullable", .object [("type", .list [.str "array", .str "null"]),
            ("items", .object [("type", .list [.str "Pet", .str "null"])])]),
          ("both", .object [("allOf", .list
            [.object [("$ref", .str "#/definitions/A")],
              .object [("type", .list [.str "string", .str "null"])]])])])]

theorem markedTree_nullableByType : NullableByType markedTree := by
  have hnone : ∀ part ∈ ([] : List Value), NullableByType part := List.forall_mem_nil _
  have hid : NullableByType (.object [("nullable", .bool true), ("type", .str "integer")]) :=
    .node (fun _ => ⟨"integer", rfl, by decide, by decide⟩) hnone
  have hpet : NullableByType (.object [("type", .str "Pet"), ("nullable", .bool true)]) :=
    .node (fun _ => ⟨"Pet", rfl, by decide, by decide⟩) hnone
  have hreference : NullableByType (.object [("$ref", .str "#/definitions/A")]) :=
    .node (fun h => by cases h) hnone
  have hstring : NullableByType (.object [("type", .str "string"), ("nullable", .bool true)]) :=
    .node (fun _ => ⟨"string", rfl, by decide, by decide⟩) hnone
  refine .node (fun _ => ⟨"object", rfl, by decide, by decide⟩) ?_
  refine List.forall_mem_cons.2 ⟨hid, List.forall_mem_cons.2 ⟨?_, List.forall_mem_cons.2 ⟨?_, hnone⟩⟩⟩
  · exact .node (fun _ => ⟨"array", rfl, by decide, by decide⟩) (List.forall_mem_cons.2 ⟨hpet, hnone⟩)
  · exact .node (fun h => by cases h)
      (List.forall_mem_cons.2 ⟨hreference, List.forall_mem_cons.2 ⟨hstring, hnone⟩⟩)

theorem typeText_listedTree :
    NullableByType markedTree ∧ respell markedTree = listedTree ∧
      typeText listedTree = typeText markedTree ∧
        typeText markedTree = .ok ("\x7b 'id': number | null; 'nullable'?: Array<Pet | null> | null; " ++
          "'both'?: A & string | null \x7d | null") := by
  have hrespelled : respell markedTree = listedTree := by decide +kernel
  have hsame := typeText_respell markedTree_nullableByType
  rw [hrespelled] at hsame
  exact ⟨markedTree_nullableByType, hrespelled, hsame, by decide +kernel⟩

end TypeText
end ApiView
