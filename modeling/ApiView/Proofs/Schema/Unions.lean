import ApiView.Proofs.Schema.Forms
import ApiView.Proofs.Schema.Literals

/-!
# Unions — where the bars of a type come from

The type of a schema is closed as long as the names in it are plain, and a bar parts it exactly if the schema
asks for a union where no array and no object is around it:

* `PartedIff`: a closed type that a bar parts exactly if something holds;
* `isPlainNode`, `PlainlyNamed`: no name, and no key, opens or closes anything;
* `isUnionForm`, `AddsNull`, `Shows`, `IsUnion`: a union stands open in the type of a schema;
* `partedIff_structureText`: what one node adds, given the types of its parts;
* `partedIff_typeText`: the type of a plainly named schema is closed, and a bar parts it iff the schema is a
  union.
-/

namespace ApiView
namespace TypeText

open Place

/-! ## Types that are parted -/

/-- A closed type that a bar parts exactly if something holds. -/
structure PartedIff (type : String) (P : Prop) : Prop where
  closed : IsClosed type.toList
  splits : Splits start type.toList ↔ P

namespace PartedIff

variable {type : String} {P Q : Prop}

theorem congr (h : PartedIff type P) (hiff : P ↔ Q) : PartedIff type Q where
  closed := h.closed
  splits := h.splits.trans hiff

theorem solid (h : IsSolid type.toList) : PartedIff type False where
  closed := h.toIsClosed
  splits := iff_false_intro h.whole

theorem plain (h : arePlain type.toList = true) : PartedIff type False :=
  solid (isSolid_of_plain h)

theorem readsAsUnion_iff (h : PartedIff type P) : ReadsAsUnion type ↔ P :=
  TypeText.readsAsUnion_iff.trans h.splits

/-- Types with something between each two of them are parted by it, or if one of them is. -/
theorem intercalate {α : Type} {R : α → Prop} {separator : String} {row : List α}
    {types : List String} (hseparator : PartedIff separator P)
    (h : List.Forall₂ (fun a type => PartedIff type (R a)) row types) :
    PartedIff (separator.intercalate types) (1 < row.length ∧ P ∨ ∃ a ∈ row, R a) := by
  have hclosed : ∀ text ∈ types.map String.toList, IsClosed text := by
    induction h with
    | nil =>
        exact List.forall_mem_nil _
    | cons hparted _ ih =>
        exact List.forall_mem_cons.2 ⟨hparted.closed, ih⟩
  have hsome : (∃ text ∈ types.map String.toList, Splits start text) ↔ ∃ a ∈ row, R a := by
    clear hclosed
    induction h with
    | nil =>
        simp
    | cons hparted _ ih =>
        rw [List.map_cons, List.exists_mem_cons_iff, List.exists_mem_cons_iff, ih,
          hparted.splits]
  constructor
  · rw [String.toList_intercalate]
    exact hseparator.closed.intercalate hclosed
  · rw [String.toList_intercalate, splits_intercalate hseparator.closed hclosed, hsome,
      hseparator.splits, List.length_map, h.length_eq]

/-- What stands between the types of a union parts them. -/
theorem bar : PartedIff " | " True where
  closed := by
    constructor
    · intro depth
      rfl
    · intro depth
      simp [splits_cons, not_splits_nil, Place.next, isQuote, isOpening, isClosing]
  splits := iff_true_intro (by unfold Splits; decide)

/-- Null is added behind a bar. -/
theorem withNull (h : PartedIff type P) (nullable : Bool) :
    PartedIff (TypeText.withNull nullable type)
      (P ∨ nullable = true ∧ type ≠ "any" ∧ type ≠ "null") := by
  have hnull : IsSolid "null".toList := isSolid_of_plain (by decide)
  have hadded : IsClosed " | null".toList := bar.closed.append hnull.toIsClosed
  have hparted : Splits start " | null".toList := by
    unfold Splits
    decide
  unfold TypeText.withNull
  split_ifs with hadds
  · simp only [Bool.and_eq_true, bne_iff_ne] at hadds
    constructor
    · rw [String.toList_append]
      exact h.closed.append hadded
    · rw [String.toList_append, splits_append, h.closed.walk]
      exact iff_of_true (Or.inr hparted) (Or.inr ⟨hadds.1.1, hadds.1.2, hadds.2⟩)
  · refine h.congr (or_iff_left ?_).symm
    rintro ⟨hnullable, hany, hnull⟩
    exact hadds (by simp [hnullable, hany, hnull])

end PartedIff

/-! ## Plain names -/

/-- Whether the name that a reference becomes is plain. -/
def isPlainReference (pointer : String) : Bool :=
  match Reference.Pointer.name pointer with
  | .ok name => arePlain name.toList
  | .error _ => true

mutual

/-- Whether the names in a declared type are plain. -/
def isPlainType : Value → Bool
  | .list types => arePlainTypes types
  | .scalar (.str name) => arePlain name.toList
  | _ => true

/-- Whether the names in several declared types are plain. -/
def arePlainTypes : List Value → Bool
  | [] => true
  | type :: rest => isPlainType type && arePlainTypes rest

end

/-- Whether a key stays inside of the literal that it is written as. -/
def isPlainKey (key : Scalar) : Bool :=
  key.display.toList.all fun c => c != '\'' && c != '\\'

/-- The keys of the properties of a node. -/
def propertyKeys (node : Entries) : List Scalar :=
  match node.member? "properties" with
  | some (.map properties) => Entries.keys properties
  | _ => []

/-- Whether what a node itself adds to its type is plain. -/
def isPlainNode (node : Entries) : Bool :=
  match form node with
  | .reference pointer => isPlainReference pointer
  | .declared type => isPlainType type && (propertyKeys node).all isPlainKey
  | _ => true

/-- Whatever gets into the type of a schema is plain. -/
inductive PlainlyNamed : Value → Prop
  | leaf {v : Value} : v.entries? = none → PlainlyNamed v
  | node {node : Entries} :
      isPlainNode node = true → (∀ part ∈ parts node, PlainlyNamed part) → PlainlyNamed (.map node)

/-! ## Unions in a schema -/

mutual

/-- Whether a declared type is a union: it lists several types, or a union. -/
def isUnionType : Value → Bool
  | .list types => 1 < types.length || hasUnionType types
  | _ => false

/-- Whether one of several declared types is a union. -/
def hasUnionType : List Value → Bool
  | [] => false
  | type :: rest => isUnionType type || hasUnionType rest

end

/-- Whether a form is a union of its own: several values, several alternatives or several declared types. -/
def isUnionForm : Form → Bool
  | .enumeration values => 1 < values.length
  | .composition separator members => 1 < members.length && separator == " | "
  | .declared type => isUnionType type
  | _ => false

/-- Null is added to the type of a node. -/
def AddsNull (node : Entries) : Prop :=
  (form node).isStructure = true ∧ (node.member "nullable").isTrue = true ∧
    ∃ type, structureText node = .ok type ∧ type ≠ "any" ∧ type ≠ "null"

/-- The schemas whose types stand in the type of a node without brackets around them. -/
def openParts (node : Entries) : List Value :=
  match form node with
  | .schema inner => [inner]
  | .composition _ members => members
  | _ => []

/-- A node stands in the type of a schema without brackets around it. -/
inductive Shows : Value → Entries → Prop
  | here {node : Entries} : Shows (.map node) node
  | inside {node inner : Entries} {part : Value} :
      part ∈ openParts node → Shows part inner → Shows (.map node) inner

/-- A schema is a union: a node that is one, or that null is added to, stands open in its type. -/
def IsUnion (v : Value) : Prop :=
  ∃ node, Shows v node ∧ (isUnionForm (form node) = true ∨ AddsNull node)

/-- A node is a union by its own form, or by a part that is left open. -/
theorem isUnion_iff (node : Entries) :
    IsUnion (.map node) ↔
      (isUnionForm (form node) = true ∨ AddsNull node) ∨ ∃ part ∈ openParts node, IsUnion part := by
  constructor
  · rintro ⟨inner, hshows, hunion⟩
    cases hshows with
    | here =>
        exact Or.inl hunion
    | inside hpart hshows =>
        exact Or.inr ⟨_, hpart, inner, hshows, hunion⟩
  · rintro (hunion | ⟨part, hpart, inner, hshows, hunion⟩)
    · exact ⟨node, Shows.here, hunion⟩
    · exact ⟨inner, Shows.inside hpart hshows, hunion⟩

/-- Only a node whose type is put together is a union of its own. -/
theorem isStructure_of_union {node : Entries}
    (h : isUnionForm (form node) = true ∨ AddsNull node) : (form node).isStructure = true := by
  rcases h with hunion | ⟨hstructure, -⟩
  · cases hform : form node with
    | schema inner =>
        rw [hform] at hunion
        cases hunion
    | reference pointer =>
        rw [hform] at hunion
        cases hunion
    | _ =>
        rfl
  · exact hstructure

/-- A node with an inner schema is a union if that is one. -/
theorem isUnion_of_schema {node : Entries} {inner : Value} (h : form node = .schema inner) :
    IsUnion (.map node) ↔ IsUnion inner := by
  have hown : ¬ (isUnionForm (form node) = true ∨ AddsNull node) := by
    intro hunion
    have hstructure := isStructure_of_union hunion
    rw [h] at hstructure
    cases hstructure
  have hopen : openParts node = [inner] := by
    rw [openParts, h]
  rw [isUnion_iff node, or_iff_right hown, hopen, List.exists_mem_cons_iff, or_iff_left (by simp)]

/-- A reference is no union. -/
theorem not_isUnion_of_reference {node : Entries} {pointer : String}
    (h : form node = .reference pointer) : ¬ IsUnion (.map node) := by
  rw [isUnion_iff]
  rintro (hunion | ⟨part, hpart, -⟩)
  · have hstructure := isStructure_of_union hunion
    rw [h] at hstructure
    cases hstructure
  · rw [openParts, h] at hpart
    cases hpart

/-- Only nodes are unions. -/
theorem not_isUnion_of_leaf {v : Value} (h : v.entries? = none) : ¬ IsUnion v := by
  rintro ⟨node, hshows, -⟩
  cases hshows with
  | here =>
      cases h
  | inside =>
      cases h

/-! ## Declared types -/

section Declared

variable {array object : Except Failure String} {arrayParts objectParts : List Value}
  {hasProperties : Bool} {Fits : Value → Prop}

/-- A list of types has a union in it if one of them is one. -/
theorem hasUnionType_iff {types : List Value} :
    hasUnionType types = true ↔ ∃ type ∈ types, isUnionType type = true := by
  induction types with
  | nil =>
      simp [hasUnionType]
  | cons type rest ih =>
      rw [hasUnionType, Bool.or_eq_true, ih, List.exists_mem_cons_iff]

/-- A list of types is a union if it has two of them or one that is a union. -/
theorem isUnionType_list_iff {types : List Value} :
    isUnionType (.list types) = true ↔
      1 < types.length ∧ True ∨ ∃ type ∈ types, isUnionType type = true := by
  rw [isUnionType, Bool.or_eq_true, decide_eq_true_eq, hasUnionType_iff, and_true]

/-- The type of a declared type name is plain if the name is. -/
theorem arePlain_primitive {name : String} (h : arePlain name.toList = true) :
    arePlain (primitive name).toList = true := by
  unfold primitive
  split
  all_goals
    first
      | rfl
      | exact h

mutual

/-- A declared type is parted if it lists several types, or a list that is parted. -/
theorem partedIff_declared
    (harray : (∀ part ∈ arrayParts, Fits part) → ∀ text, array = .ok text → IsSolid text.toList)
    (hobject : (∀ part ∈ objectParts, Fits part) → ∀ text, object = .ok text → IsSolid text.toList) :
    ∀ (type : Value) {text : String}, isPlainType type = true →
      (∀ part ∈ declaredParts arrayParts objectParts hasProperties type, Fits part) →
        declared array object hasProperties type = .ok text →
          PartedIff text (isUnionType type = true)
  | .list types, text, hplain, hparts, h => by
      simp only [declared, bind_eq_ok_iff, pure_eq_ok_iff] at h
      obtain ⟨texts, htexts, rfl⟩ := h
      have hrow := partedIff_declaredAll harray hobject types hplain hparts htexts
      have hunion := (PartedIff.bar.intercalate hrow).congr isUnionType_list_iff.symm
      split
      · rename_i hempty
        -- The empty text has no bar, so no list that becomes it is a union.
        rw [beq_iff_eq] at hempty
        rw [hempty] at hunion
        have hany : PartedIff "any" False := PartedIff.plain rfl
        exact hany.congr ⟨False.elim, fun hsome => not_splits_nil start (hunion.splits.2 hsome)⟩
      · exact hunion
  | .scalar .null, text, _, hparts, h => by
      have hnone : isUnionType (.scalar .null) = true ↔ False := by simp [isUnionType]
      cases hasProperties with
      | false =>
          cases h
          exact (PartedIff.plain rfl).congr hnone.symm
      | true =>
          exact (PartedIff.solid (hobject hparts text h)).congr hnone.symm
  | .scalar (.str name), text, hplain, hparts, h => by
      have hnone : isUnionType (.scalar (.str name)) = true ↔ False := by simp [isUnionType]
      unfold declared at h
      unfold declaredParts at hparts
      by_cases hname : (name == "array") = true
      · rw [if_pos hname] at h hparts
        exact (PartedIff.solid (harray hparts text h)).congr hnone.symm
      · rw [if_neg hname] at h hparts
        by_cases hname' : (name == "object") = true
        · rw [if_pos hname'] at h hparts
          exact (PartedIff.solid (hobject hparts text h)).congr hnone.symm
        · rw [if_neg hname'] at h
          cases h
          exact (PartedIff.plain (arePlain_primitive hplain)).congr hnone.symm
  | .scalar (.bool _), _, _, _, h | .scalar (.int _), _, _, _, h | .scalar (.float _), _, _, _, h
  | .scalar (.date _), _, _, _, h | .scalar (.dateTime _), _, _, _, h
  | .scalar (.bytes _), _, _, _, h | .map _, _, _, _, h | .pair _ _, _, _, _, h
  | .set _, _, _, _, h | .again true _, _, _, _, h => by
      cases h
      exact (PartedIff.plain rfl).congr (by simp [isUnionType])
  | .again false _, _, _, _, h => by
      cases h

theorem partedIff_declaredAll
    (harray : (∀ part ∈ arrayParts, Fits part) → ∀ text, array = .ok text → IsSolid text.toList)
    (hobject : (∀ part ∈ objectParts, Fits part) → ∀ text, object = .ok text → IsSolid text.toList) :
    ∀ (types : List Value) {texts : List String}, arePlainTypes types = true →
      (∀ part ∈ declaredPartsAll arrayParts objectParts hasProperties types, Fits part) →
        declaredAll array object hasProperties types = .ok texts →
          List.Forall₂ (fun type text => PartedIff text (isUnionType type = true)) types texts
  | [], _, _, _, h => by
      cases h
      exact List.Forall₂.nil
  | type :: rest, texts, hplain, hparts, h => by
      rw [arePlainTypes, Bool.and_eq_true] at hplain
      obtain ⟨hfirst, hothers⟩ := List.forall_mem_append.1 hparts
      simp only [declaredAll, bind_eq_ok_iff, pure_eq_ok_iff] at h
      obtain ⟨text, htext, others, hrest, rfl⟩ := h
      exact List.Forall₂.cons (partedIff_declared harray hobject type hplain.1 hfirst htext)
        (partedIff_declaredAll harray hobject rest hplain.2 hothers hrest)

end

end Declared

/-! ## Objects and arrays -/

section Containers

variable {node : Entries} {text : String}

/-- The name of a member is a literal, with a mark behind it or none. -/
theorem isSolid_memberName {required : List Scalar} {key : Scalar} (hkey : isPlainKey key = true)
    (h : memberName required key = .ok text) : IsSolid text.toList := by
  simp only [memberName, bind_eq_ok_iff, pure_eq_ok_iff] at h
  obtain ⟨name, hname, rfl⟩ := h
  have hkeeps : KeepsLiteral '\'' name.toList := by
    unfold Scalar.displayed Value.displayed at hname
    split at hname
    · cases hname
    · cases hname
      refine KeepsLiteral.of_forall fun c hc => ?_
      simpa using List.all_eq_true.1 hkey c hc
  have hmark : IsSolid (if required.any (·.same key) then "" else "?").toList := by
    apply isSolid_of_plain
    split_ifs <;> rfl
  have hquoted : IsSolid ("'" ++ name ++ "'").toList := by
    rw [String.toList_append, String.toList_append]
    exact hkeeps.quoted rfl
  rw [String.toList_append]
  exact hquoted.append hmark

/-- The members of an object type are closed if their types are. -/
theorem isClosed_of_memberTexts {required : List Scalar} {members : Entries} {texts : List String}
    (hkeys : ∀ key ∈ members.keys, isPlainKey key = true)
    (htypes : ∀ v ∈ members.map (·.2), ∀ type, typeText v = .ok type → IsClosed type.toList) :
    memberTexts required members = .ok texts → ∀ text ∈ texts, IsClosed text.toList := by
  intro h
  induction members generalizing texts with
  | nil =>
      unfold memberTexts at h
      cases h
      exact List.forall_mem_nil _
  | cons entry rest ih =>
      obtain ⟨name, v⟩ := entry
      obtain ⟨hname, hothers⟩ := List.forall_mem_cons.1 hkeys
      obtain ⟨hv, htypes'⟩ := List.forall_mem_cons.1 htypes
      unfold memberTexts at h
      simp only [bind_eq_ok_iff, pure_eq_ok_iff] at h
      obtain ⟨member, hmember, type, htype, others, hrest, rfl⟩ := h
      have hcolon : IsSolid ": ".toList := isSolid_of_plain (by decide)
      refine List.forall_mem_cons.2 ⟨?_, ih hothers htypes' hrest⟩
      rw [String.toList_append, String.toList_append]
      exact ((isSolid_memberName hname hmember).append hcolon).toIsClosed.append (hv type htype)

/-- Braces around a closed text. -/
theorem isSolid_braces (h : IsClosed text.toList) : IsSolid ("\x7b " ++ text ++ " \x7d").toList := by
  have hblank : IsSolid [' '] := isSolid_of_plain (by decide)
  have hinside : IsClosed (' ' :: (text.toList ++ [' '])) :=
    hblank.toIsClosed.append (h.append hblank.toIsClosed)
  have hbraced : IsSolid ('\x7b' :: (' ' :: (text.toList ++ [' ']) ++ ['\x7d'])) :=
    hinside.bracketed rfl rfl
  rw [String.toList_append, String.toList_append]
  simpa using hbraced

/-- An index signature around a closed text. -/
theorem isSolid_index (h : IsClosed text.toList) :
    IsSolid ("\x7b [key: string]: " ++ text ++ " \x7d").toList := by
  have hkey : IsSolid "key: string".toList := isSolid_of_plain (by decide)
  have hcolon : IsSolid ": ".toList := isSolid_of_plain (by decide)
  have hname : IsSolid "[key: string]: ".toList := (hkey.toIsClosed.bracketed rfl rfl).append hcolon
  have hbraces : IsSolid ("\x7b " ++ ("[key: string]: " ++ text) ++ " \x7d").toList := by
    apply isSolid_braces
    rw [String.toList_append]
    exact hname.toIsClosed.append h
  rw [← String.append_assoc] at hbraces
  exact hbraces

/-- The type of an object is solid: it stands between braces. -/
theorem isSolid_objectText (hkeys : (propertyKeys node).all isPlainKey = true)
    (hparts : ∀ part ∈ objectParts node, ∀ type, typeText part = .ok type → IsClosed type.toList) :
    objectText node = .ok text → IsSolid text.toList := by
  intro h
  unfold objectText at h
  unfold propertyKeys at hkeys
  unfold objectParts at hparts
  split at h
  · rename_i p ps hproperties
    rw [hproperties] at hkeys hparts
    simp only [bind_eq_ok_iff, pure_eq_ok_iff] at h
    obtain ⟨required, _, members, hmembers, rfl⟩ := h
    have hsemicolon : IsSolid "; ".toList := isSolid_of_plain (by decide)
    have hclosed := isClosed_of_memberTexts (List.all_eq_true.1 hkeys) hparts hmembers
    -- Nothing inside braces is at the outermost level.
    apply isSolid_braces
    rw [String.toList_intercalate]
    exact hsemicolon.toIsClosed.intercalate (List.forall_mem_map.2 hclosed)
  · cases h
  · -- Without members the type of an object is an index or empty braces.
    rename_i hnone hcut
    split at hparts
    · rename_i p ps hproperties
      exact absurd hproperties (hnone p ps)
    · rename_i places hproperties
      exact absurd hproperties (hcut places)
    · split at h
      · rename_i schema hadditional
        rw [hadditional] at hparts
        simp only [bind_eq_ok_iff, pure_eq_ok_iff] at h
        obtain ⟨type, htype, rfl⟩ := h
        exact isSolid_index (hparts schema List.mem_cons_self type htype)
      · cases h
        split
        · have hany : IsSolid "any".toList := isSolid_of_plain (by decide)
          exact isSolid_index hany.toIsClosed
        · exact isSolid_nil.toIsClosed.bracketed rfl rfl

/-- The type of an array is solid: it stands between angles. -/
theorem isSolid_arrayText
    (hparts : ∀ part ∈ (node.member? "items").toList, ∀ type, typeText part = .ok type →
      IsClosed type.toList) :
    arrayText node = .ok text → IsSolid text.toList := by
  intro h
  have hword : IsSolid "Array".toList := isSolid_of_plain (by decide)
  have hangles : ∀ {items : String}, IsClosed items.toList →
      IsSolid ("Array<" ++ items ++ ">").toList := by
    intro items hitems
    rw [String.toList_append, String.toList_append]
    exact hword.append (hitems.bracketed rfl rfl)
  unfold arrayText at h
  split at h
  · rename_i items hmember
    simp only [bind_eq_ok_iff, pure_eq_ok_iff] at h
    obtain ⟨type, htype, rfl⟩ := h
    exact hangles (hparts items (by simp [hmember]) type htype)
  · simp only [bind_eq_ok_iff, pure_eq_ok_iff] at h
    obtain ⟨type, htype, rfl⟩ := h
    cases htype
    have hany : IsSolid "any".toList := isSolid_of_plain (by decide)
    exact hangles hany.toIsClosed

end Containers

/-! ## Schemas -/

section Schemas

variable {node : Entries} {text : String}

/-- Members are joined in one of two ways. -/
theorem separator_cases {separator : String} {members : List Value} :
    composition? node = some (separator, members) → separator = " & " ∨ separator = " | " := by
  intro h
  unfold composition? at h
  split at h
  · cases h
    exact Or.inl rfl
  · cases h
    exact Or.inr rfl
  · cases h
    exact Or.inr rfl
  · cases h

/-- What stands between the types of a composition parts them if it is a bar. -/
theorem partedIff_separator {separator : String} {members : List Value}
    (h : form node = .composition separator members) :
    PartedIff separator (separator = " | ") := by
  rcases separator_cases (form_eq_composition_iff.1 h).2.2 with rfl | rfl
  · have hampersand : PartedIff " & " False := PartedIff.plain rfl
    exact hampersand.congr (by decide)
  · exact PartedIff.bar.congr (by decide)

/-- What is put together of the types of the parts is parted by the form, or where an open part is. -/
theorem partedIff_structureText (hstructure : (form node).isStructure = true)
    (hplain : isPlainNode node = true)
    (hparts : ∀ part ∈ parts node, ∀ type, typeText part = .ok type → PartedIff type (IsUnion part)) :
    structureText node = .ok text →
      PartedIff text (isUnionForm (form node) = true ∨ ∃ part ∈ openParts node, IsUnion part) := by
  intro h
  rw [parts_of_form] at hparts
  unfold openParts
  unfold isPlainNode at hplain
  cases hform : form node with
  | schema inner =>
      rw [hform] at hstructure
      cases hstructure
  | reference pointer =>
      rw [hform] at hstructure
      cases hstructure
  | enumeration values =>
      rw [structureText_of_enumeration hform] at h
      simp only [bind_eq_ok_iff, pure_eq_ok_iff, mapM_eq_ok_iff] at h
      obtain ⟨types, htypes, rfl⟩ := h
      -- No literal is parted, so the bars that count stand between two of them.
      have hrow : List.Forall₂ (fun _ type => PartedIff type False) values types :=
        htypes.imp fun v type hliteral => PartedIff.solid (isSolid_of_literal hliteral)
      exact (PartedIff.bar.intercalate hrow).congr (by simp [isUnionForm])
  | composition separator members =>
      rw [hform] at hparts
      rw [structureText_of_composition hform, joined_eq_ok_iff] at h
      obtain ⟨types, htypes, rfl⟩ := h
      have hrow : List.Forall₂ (fun v type => PartedIff type (IsUnion v)) members types :=
        ((List.forall₂_and_left _ _).2 ⟨hparts, htypes⟩).imp fun v type hv => hv.1 type hv.2
      exact ((partedIff_separator hform).intercalate hrow).congr (by simp [isUnionForm])
  | declared type =>
      rw [hform] at hparts hplain
      rw [structureText_of_declared hform] at h
      rw [Bool.and_eq_true] at hplain
      -- The parts stand between the brackets of arrays and objects, so it is enough that they are closed.
      have hclosed := fun part hpart type htype => (hparts part hpart type htype).closed
      have hdeclared := partedIff_declared (fun hitems _ => isSolid_arrayText hitems)
        (fun hmembers _ => isSolid_objectText hplain.2 hmembers) type hplain.1 hclosed h
      exact hdeclared.congr (by simp [isUnionForm])

/-- The type of a plainly named schema is closed, and a bar parts it iff the schema is a union. -/
theorem partedIff_typeText {v : Value} (h : PlainlyNamed v) :
    ∀ {type}, typeText v = .ok type → PartedIff type (IsUnion v) := by
  -- The induction goes down the parts; whatever the form, the types of the parts are parted as they should.
  induction h with
  | @leaf v hleaf =>
      intro type htype
      have hnone := not_isUnion_of_leaf hleaf
      have hany : type = "any" := by
        unfold typeText at htype
        split at htype
        · cases hleaf
        · cases htype
        · cases htype
          rfl
      rw [hany]
      exact (PartedIff.plain rfl).congr (iff_of_false id hnone)
  | @node node hplain hparts ih =>
      intro type htype
      by_cases hstructure : (form node).isStructure = true
      · rw [typeText_of_structure hstructure] at htype
        simp only [bind_eq_ok_iff, Except.ok.injEq] at htype
        obtain ⟨text, htext, rfl⟩ := htype
        have hparted := partedIff_structureText hstructure hplain (fun part hpart _ => ih part hpart)
          htext
        -- Null comes last, behind what the form and the open parts ask for.
        refine (hparted.withNull _).congr ?_
        have hadds : AddsNull node ↔
            (node.member "nullable").isTrue = true ∧ text ≠ "any" ∧ text ≠ "null" := by
          simp [AddsNull, hstructure, htext]
        rw [isUnion_iff node, hadds, or_right_comm]
      · cases hform : form node with
        | schema inner =>
            rw [parts_of_form, hform] at ih
            rw [typeText_of_schema hform] at htype
            exact (ih inner List.mem_cons_self htype).congr (isUnion_of_schema hform).symm
        | reference pointer =>
            rw [typeText_of_reference hform] at htype
            rw [isPlainNode, hform] at hplain
            have hname : arePlain type.toList = true := by
              simpa only [isPlainReference, htype] using hplain
            exact (PartedIff.plain hname).congr (iff_of_false id (not_isUnion_of_reference hform))
        | _ =>
            rw [hform] at hstructure
            exact absurd rfl hstructure

end Schemas

end TypeText
end ApiView
