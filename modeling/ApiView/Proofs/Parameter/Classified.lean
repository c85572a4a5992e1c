import ApiView.Proofs.Build.Derived
import ApiView.Proofs.Naming.Identifier
import ApiView.Proofs.Schema.Typed

/-!
# Classified — how well-typed parameters end

A parameter node may be a schema itself, so both read the members that it has.  One name means two things to
them: `required` is the flag of a parameter and the list of names that an object requires.  A flag that is
set is no list, and an object that asks it for names fails.  Besides, no field may hold a half of a
surrogate pair.  Nothing else can go wrong with a well-typed node:

* `WellTyped`: the members of a parameter node have the kinds they are read at;
* `FlagRead`: the flag of a node is read as a list of names;
* `ownTexts`, `problems_eq_nil_iff`: the texts of a parameter, and when nothing is wrong with its fields;
* `exists_accept_of_typed`: what a node comes down to when its type is known;
* `Verdict`, `verdict_classify`: the four ends of a well-typed node.
-/

namespace ApiView

/-! ## Fields -/

namespace Value

variable {field : String} {v : Value}

theorem textProblems_str_eq_nil_iff {s : String} :
    (str s).textProblems field = [] ↔ Text.isWhole s = true := by
  cases hwhole : Text.isWhole s <;> simp [textProblems, textProblemsAt, str, fieldText, hwhole]

/-- A field that is a text or absent is refused iff it is a text with a half. -/
theorem optionalTextProblems_eq_nil_iff (h : v = .null ∨ ∃ s, v = .str s) :
    v.optionalTextProblems field = [] ↔ ∀ s, v.text? = some s → Text.isWhole s = true := by
  rcases h with rfl | ⟨s, rfl⟩
  · exact iff_of_true rfl fun s hs => by cases hs
  · have htext : (str s).text? = some s := rfl
    have hpresent : (str s).isNull = false := rfl
    rw [optionalTextProblems, hpresent, if_neg Bool.false_ne_true, textProblems_str_eq_nil_iff, htext]
    constructor
    · rintro hwhole t ⟨⟩
      exact hwhole
    · intro hwhole
      exact hwhole s rfl

end Value

namespace Parameter

variable {serverSide : Bool} {locationField name : String} {node : Entries} {location : Location}

/-! ## Well-typed nodes -/

/-- The members of a parameter node have the kinds they are read at, a default can be written as JSON, and
the schemas that its type is made of are well-typed.  The node is a typed schema itself, but its own
`required` is a flag. -/
structure WellTyped (locationField : String) (node : Entries) : Prop where
  name : node.MemberIs Value.str "name"
  location : node.MemberIs Value.str locationField
  description : node.MemberIs Value.str "description"
  pattern : node.MemberIs Value.str "x-name-pattern"
  required : node.MemberIs Value.bool "required"
  enumeration : node.MemberIs Value.list "enum"
  default : Json.obstacle? (ownOrSchema node "default") = none
  typed : TypeText.NodeTyped node
  parts : ∀ part ∈ TypeText.parts node, TypeText.WellTyped part

/-- The flag of a node is set, and an object among its types asks it for the names of required members. -/
def FlagRead (node : Entries) : Prop :=
  (node.member "required").isTrue = true ∧ TypeText.ReadsRequired node

/-! ## The members that are read first -/

/-- The name of a node that has none is empty. -/
theorem nameText_of_typed (h : node.MemberIs Value.str "name") :
    nameText node = .ok (((node.member "name").text?).getD "") := by
  unfold nameText Entries.member
  cases hname : node.member? "name" with
  | none =>
      rfl
  | some v =>
      obtain ⟨s, rfl⟩ := h v hname
      rfl

/-- Every text names a location or none, and so does a missing one. -/
theorem exists_place (serverSide : Bool) (h : node.MemberIs Value.str locationField) :
    ∃ placed, place serverSide locationField node = .ok placed := by
  have hkey : ∃ word, (node.member locationField).key = .ok word := by
    rcases h.member with hnull | ⟨s, hs⟩
    · exact ⟨some .null, by rw [hnull]; rfl⟩
    · exact ⟨some (.str s), by rw [hs]; rfl⟩
  obtain ⟨word, hword⟩ := hkey
  unfold place
  dsimp only
  rw [hword]
  -- A node may be dropped before its location is looked at.
  split_ifs
  · exact ⟨_, rfl⟩
  · exact ⟨_, rfl⟩
  · rw [ok_bind]
    split
    · exact ⟨_, rfl⟩
    · exact ⟨_, rfl⟩

theorem exists_defaultText {v : Value} (h : Json.obstacle? v = none) :
    ∃ text, defaultText v = .ok text := by
  unfold defaultText
  split
  · exact ⟨none, rfl⟩
  · obtain ⟨text, htext⟩ := TypeText.exists_literal h
    exact ⟨some text, by rw [htext]; rfl⟩

/-! ## The type -/

/-- A flag that is set is no list of names. -/
theorem requiredKeys_of_flag (hset : (node.member "required").isTrue = true) :
    TypeText.requiredKeys node = .error (.defect .notIterable) := by
  have hflag : node.member "required" = .bool true := by
    unfold Value.isTrue at hset
    split at hset
    · assumption
    · cases hset
  unfold TypeText.requiredKeys
  rw [hflag]
  rfl

/-- A flag that is not set stands for no names, and so does a missing one. -/
theorem requiredKeys_of_no_flag (h : node.MemberIs Value.bool "required")
    (hset : ¬ (node.member "required").isTrue = true) : TypeText.requiredKeys node = .ok [] := by
  unfold TypeText.requiredKeys
  unfold Entries.member at hset ⊢
  cases hrequired : node.member? "required" with
  | none =>
      rfl
  | some v =>
      obtain ⟨flag, rfl⟩ := h v hrequired
      rw [hrequired] at hset
      cases flag with
      | false =>
          rfl
      | true =>
          exact absurd rfl hset

namespace WellTyped

variable (h : WellTyped locationField node)
include h

/-- The parts of a node that is well typed have types. -/
theorem hasType_parts : ∀ part ∈ TypeText.parts node, TypeText.HasType part :=
  fun part hpart => TypeText.hasType_of_wellTyped (h.parts part hpart)

/-- The type fails with the flag, where that is read. -/
theorem typeText_of_flagRead (hread : FlagRead node) :
    TypeText.typeText (.map node) = .error (.defect .notIterable) :=
  TypeText.typeText_of_required_error h.hasType_parts hread.2 (requiredKeys_of_flag hread.1)

/-- There is a type wherever the flag is not set, or not read. -/
theorem exists_typeText (hread : ¬ FlagRead node) :
    ∃ type, TypeText.typeText (.map node) = .ok type := by
  refine TypeText.hasType_of_node h.typed h.hasType_parts fun hreads => ?_
  -- The object is asked for, so it must be the flag that is not set.
  have hset : ¬ (node.member "required").isTrue = true := fun hset => hread ⟨hset, hreads⟩
  exact ⟨[], requiredKeys_of_no_flag h.required hset⟩

end WellTyped

/-! ## The parameter -/

/-- The texts of a node that become fields as they are, and the text of its type. -/
def ownTexts (node : Entries) (location : Location) (type : String) : List String :=
  type :: [node.member "name", node.member "description", patternOf node location].filterMap
    Value.text?

theorem patternOf_of_typed (location : Location) (h : node.MemberIs Value.str "x-name-pattern") :
    patternOf node location = .null ∨ ∃ s, patternOf node location = .str s := by
  unfold patternOf
  dsimp only
  split_ifs
  · exact h.member
  · exact Or.inl rfl

/-- The texts of a parameter that come out of its own node. -/
theorem forall_ownTexts_iff {P : String → Prop} {type : String} :
    (∀ text ∈ ownTexts node location type, P text) ↔
      P type ∧ (∀ s, (node.member "name").text? = some s → P s) ∧
        (∀ s, (node.member "description").text? = some s → P s) ∧
          ∀ s, (patternOf node location).text? = some s → P s := by
  unfold ownTexts
  rw [List.forall_mem_cons, and_congr_right_iff]
  intro _
  constructor
  · intro hall
    have hfield : ∀ v ∈ [node.member "name", node.member "description", patternOf node location],
        ∀ s, v.text? = some s → P s := fun v hv s hs => hall s (List.mem_filterMap.2 ⟨v, hv, hs⟩)
    simpa only [List.forall_mem_cons, List.not_mem_nil, false_implies, implies_true, and_true] using hfield
  · rintro ⟨hname, hdescription, hpattern⟩ text htext
    obtain ⟨v, hv, hs⟩ := List.mem_filterMap.1 htext
    simp only [List.mem_cons, List.not_mem_nil, or_false] at hv
    rcases hv with rfl | rfl | rfl
    · exact hname text hs
    · exact hdescription text hs
    · exact hpattern text hs

/-- Nothing is wrong with the fields of a parameter iff none of its texts holds a half of a pair. -/
theorem problems_eq_nil_iff (location : Location) (h : WellTyped locationField node) {p : Parameter}
    (hname : p.name = ((node.member "name").text?).getD "")
    (hcamel : p.camelCaseName = Naming.camelCase p.name) :
    p.problems (node.member "description") (patternOf node location) = [] ↔
      ∀ text ∈ ownTexts node location p.type, Text.isWhole text = true := by
  have hpattern := patternOf_of_typed location h.pattern
  have hown : Text.isWhole p.name = true ↔
      ∀ s, (node.member "name").text? = some s → Text.isWhole s = true := by
    rw [hname]
    cases (node.member "name").text? with
    | none =>
        exact iff_of_true (by decide) fun s hs => by cases hs
    | some s =>
        simp
  -- The camel-case name is put together of letters, so it is never at fault.
  have hcamelWhole : Text.isWhole p.camelCaseName = true := by
    rw [hcamel]
    exact Naming.isWhole_camelCase p.name
  unfold problems
  simp only [List.append_eq_nil_iff, Value.textProblems_str_eq_nil_iff, hcamelWhole, hown, and_true,
    Value.optionalTextProblems_eq_nil_iff h.description.member,
    Value.optionalTextProblems_eq_nil_iff hpattern, forall_ownTexts_iff]
  constructor
  · rintro ⟨⟨⟨hnames, hdescriptions⟩, hpatterns⟩, htype⟩
    exact ⟨htype, hnames, hdescriptions, hpatterns⟩
  · rintro ⟨htype, hnames, hdescriptions, hpatterns⟩
    exact ⟨⟨⟨hnames, hdescriptions⟩, hpatterns⟩, htype⟩

/-- A node whose type is known comes down to one record, which is accepted or refused. -/
theorem exists_accept_of_typed (location : Location) {type : String}
    (hdefault : Json.obstacle? (ownOrSchema node "default") = none)
    (htype : TypeText.typeText (.map node) = .ok type) :
    ∃ p : Parameter, p.name = name ∧ p.camelCaseName = Naming.camelCase p.name ∧
      p.location = location ∧ p.type = type ∧
        ofNode name node location =
          accept .parameter (p.problems (node.member "description") (patternOf node location)) p := by
  obtain ⟨defaultJson, hwritten⟩ := exists_defaultText hdefault
  unfold ofNode
  dsimp only
  rw [hwritten, ok_bind, htype, ok_bind]
  exact ⟨_, rfl, rfl, rfl, rfl, rfl⟩

/-- A parameter whose type cannot be told cannot be read. -/
theorem ofNode_of_typeText_error {e : Failure}
    (hdefault : Json.obstacle? (ownOrSchema node "default") = none)
    (htype : TypeText.typeText (.map node) = .error e) : ofNode name node location = .error e := by
  obtain ⟨defaultJson, hwritten⟩ := exists_defaultText hdefault
  unfold ofNode
  dsimp only
  rw [hwritten, ok_bind, htype]
  rfl

/-! ## The four ends -/

/-- How a parameter node ends: it is dropped; its flag is read as names; one of its texts holds a half of a
pair; or it becomes a parameter, at its location and of its type. -/
inductive Verdict (serverSide : Bool) (locationField : String) (node : Entries) :
    Except Failure (Option Parameter) → Prop
  | dropped {drop : Drop} :
      place serverSide locationField node = .ok (.error drop) →
        Verdict serverSide locationField node (.ok none)
  | misread {location : Location} :
      place serverSide locationField node = .ok (.ok location) → FlagRead node →
        Verdict serverSide locationField node (.error (.defect .notIterable))
  | refused {location : Location} {type text : String} {problems : List Problem} :
      place serverSide locationField node = .ok (.ok location) → ¬ FlagRead node →
        TypeText.typeText (.map node) = .ok type →
          text ∈ ownTexts node location type → Text.isWhole text = false →
            Verdict serverSide locationField node (.error (.invalid .parameter problems))
  | kept {p : Parameter} :
      place serverSide locationField node = .ok (.ok p.location) → ¬ FlagRead node →
        TypeText.typeText (.map node) = .ok p.type →
          (∀ text ∈ ownTexts node p.location p.type, Text.isWhole text = true) →
            Verdict serverSide locationField node (.ok (some p))

/-- What is left of a classification once the node has a name and a place. -/
theorem outcome_classify {placed : Except Drop Location} (hname : nameText node = .ok name)
    (hplace : place serverSide locationField node = .ok placed) :
    (classify serverSide locationField (.map node)).outcome =
      match placed with
      | .error _ => .ok none
      | .ok location => ofNode name node location >>= fun p => .ok (some p) := by
  have htable : (Value.map node).table = .ok node := rfl
  unfold classify
  simp only [Traced.outcome_bind, Traced.outcome_lift, htable, ok_bind, hname, hplace]
  cases placed with
  | error drop =>
      rfl
  | ok location =>
      simp only [Traced.outcome_bind, Traced.outcome_lift, Traced.outcome_pure]

/-- Every well-typed node ends in one of the four ways. -/
theorem verdict_classify (h : WellTyped locationField node) :
    Verdict serverSide locationField node (classify serverSide locationField (.map node)).outcome := by
  obtain ⟨placed, hplace⟩ := exists_place serverSide h.location
  have hname := nameText_of_typed h.name
  rw [outcome_classify hname hplace]
  cases placed with
  | error drop =>
      exact Verdict.dropped hplace
  | ok location =>
      -- From here on only the type and the check of the record can fail.
      dsimp only
      by_cases hread : FlagRead node
      · rw [ofNode_of_typeText_error h.default (h.typeText_of_flagRead hread)]
        exact Verdict.misread hplace hread
      · obtain ⟨type, htype⟩ := h.exists_typeText hread
        obtain ⟨p, hp, hcamel, rfl, rfl, hrecord⟩ :=
          exists_accept_of_typed location h.default htype
        rw [hrecord]
        have hfields := problems_eq_nil_iff p.location h hp hcamel
        by_cases hwhole : ∀ text ∈ ownTexts node p.location p.type, Text.isWhole text = true
        · rw [hfields.2 hwhole]
          exact Verdict.kept hplace hread htype hwhole
        · have hproblems := fun hnone => hwhole (hfields.1 hnone)
          push Not at hwhole
          obtain ⟨text, hmem, hhalf⟩ := hwhole
          rw [accept, if_neg (by rwa [List.isEmpty_iff])]
          exact Verdict.refused hplace hread htype hmem (Bool.not_eq_true _ ▸ hhalf)

/-- An object with a literal and a reference for members, the first of which has to be given. -/
def sizeSchema : Entries :=
  [(.str "type", .str "object"), (.str "required", .list [.str "unit"]),
   (.str "properties", .object
     [("unit", .object [("enum", .list [.str "cm", .str "in"])]),
      ("size", .object [("$ref", .str "#/definitions/Size")])])]

/-- A list of such objects that has to be given itself. -/
def sizesNode : Entries :=
  [(.str "name", .str "sizes"), (.str "in", .str "query"), (.str "required", .bool true),
   (.str "description", .str "Which sizes"), (.str "default", .list []), (.str "type", .str "array"),
   (.str "items", .map sizeSchema)]

theorem wellTyped_sizeSchema : TypeText.WellTyped (.map sizeSchema) := by
  have hunit : TypeText.WellTyped (.object [("enum", .list [.str "cm", .str "in"])]) :=
    TypeText.wellTyped_of_no_parts (by decide +kernel) (by decide +kernel) (by decide +kernel)
  have hsize : TypeText.WellTyped (.object [("$ref", .str "#/definitions/Size")]) :=
    TypeText.wellTyped_of_no_parts (by decide +kernel) (by decide +kernel) (by decide +kernel)
  have hrequires : TypeText.RequiresNames sizeSchema :=
    Entries.memberIs_of_some (a := ["unit"]) (by decide +kernel)
  have hparts : TypeText.parts sizeSchema =
      [.object [("enum", .list [.str "cm", .str "in"])],
       .object [("$ref", .str "#/definitions/Size")]] := by
    decide +kernel
  refine TypeText.wellTyped_of_parts (by decide +kernel) hrequires hparts ?_
  exact List.forall_mem_cons.2 ⟨hunit, List.forall_mem_singleton.2 hsize⟩

theorem wellTyped_sizesNode : WellTyped "in" sizesNode := by
  have hparts : TypeText.parts sizesNode = [.map sizeSchema] := by decide +kernel
  exact
    { name := Entries.memberIs_of_some (a := "sizes") (by decide +kernel)
      location := Entries.memberIs_of_some (a := "query") (by decide +kernel)
      description := Entries.memberIs_of_some (a := "Which sizes") (by decide +kernel)
      pattern := Entries.memberIs_of_none (by decide +kernel)
      required := Entries.memberIs_of_some (a := true) (by decide +kernel)
      enumeration := Entries.memberIs_of_none (by decide +kernel)
      default := by decide +kernel
      typed := by decide +kernel
      parts := by
        rw [hparts]
        exact List.forall_mem_singleton.2 wellTyped_sizeSchema }

theorem verdict_sizesNode : WellTyped "in" sizesNode ∧
    Verdict false "in" sizesNode (classify false "in" (.map sizesNode)).outcome ∧
      (classify false "in" (.map sizesNode)).outcome.toOption.map (·.map (·.type)) =
        some (some "Array<\x7b 'unit': \"cm\" | \"in\"; 'size'?: Size \x7d>") := by
  refine ⟨wellTyped_sizesNode, verdict_classify wellTyped_sizesNode, ?_⟩
  decide +kernel

/-- An object with one member that has to be given. -/
def tagNode : Entries :=
  [(.str "name", .str "filter"), (.str "in", .str "query"), (.str "required", .bool true),
   (.str "type", .str "object"),
   (.str "properties", .object [("tag", .object [("type", .str "string")])])]

/-- The flag is read as the names of required members, though every member has the kind it should have. -/
theorem tagNode_misread : WellTyped "in" tagNode ∧
    (classify false "in" (.map tagNode)).outcome = .error (.defect .notIterable) := by
  have htag : TypeText.WellTyped (.object [("type", .str "string")]) :=
    TypeText.wellTyped_of_no_parts (by decide +kernel) (by decide +kernel) (by decide +kernel)
  have hparts : TypeText.parts tagNode = [.object [("type", .str "string")]] := by decide +kernel
  have htyped : WellTyped "in" tagNode :=
    { name := Entries.memberIs_of_some (a := "filter") (by decide +kernel)
      location := Entries.memberIs_of_some (a := "query") (by decide +kernel)
      description := Entries.memberIs_of_none (by decide +kernel)
      pattern := Entries.memberIs_of_none (by decide +kernel)
      required := Entries.memberIs_of_some (a := true) (by decide +kernel)
      enumeration := Entries.memberIs_of_none (by decide +kernel)
      default := by decide +kernel
      typed := by decide +kernel
      parts := by
        rw [hparts]
        exact List.forall_mem_singleton.2 htag }
  refine ⟨htyped, ?_⟩
  decide +kernel

end Parameter
end ApiView
