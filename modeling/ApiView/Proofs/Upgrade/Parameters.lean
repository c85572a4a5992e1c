import ApiView.Parameter.Classify
import ApiView.Proofs.Upgrade.Document

/-!
# Parameters — a node is read by name

A parameter node is read member by member, and so is a schema.  Nodes that agree on the members that are
read have the same type and are classified alike, whatever the name of their place is:

* `TypeText.typeNames`, `TypeText.typeText_congr`: the members that a type depends on;
* `Parameter.nodeNames`, `Parameter.classify_congr`: the members that a parameter depends on;
* `Upgrade.classify_parameter`: a node with its place under the new name is classified alike.
-/

namespace ApiView

/-! ## Types -/

namespace TypeText

variable {node node' : Entries}

/-- The names of the members that the type of a node depends on. -/
def typeNames : List String :=
  ["schema", "$ref", "nullable", "enum", "allOf", "oneOf", "anyOf", "items", "properties", "type",
   "required", "additionalProperties"]

theorem table?_congr {name : String} (h : node'.member? name = node.member? name) :
    table? node' name = table? node name := by
  rw [table?, table?, h]

theorem someItems?_congr {name : String} (h : node'.member? name = node.member? name) :
    someItems? node' name = someItems? node name := by
  rw [someItems?, someItems?, h]

section Congr

variable (h : ∀ name ∈ typeNames, node'.member? name = node.member? name)

include h

/-- The object type of a node depends on a few of its members only. -/
theorem objectText_congr : objectText node' = objectText node := by
  have hrequired : requiredKeys node' = requiredKeys node := by
    rw [requiredKeys, requiredKeys, Entries.member, Entries.member, h "required" (by decide)]
  have hadditional := table?_congr (h "additionalProperties" (by decide))
  unfold objectText
  rw [h "properties" (by decide), hadditional, hrequired, Entries.member, Entries.member,
    h "additionalProperties" (by decide)]

theorem structureText_congr : structureText node' = structureText node := by
  unfold structureText
  rw [someItems?_congr (h "allOf" (by decide)), someItems?_congr (h "oneOf" (by decide)),
    someItems?_congr (h "anyOf" (by decide)), h "items" (by decide)]
  simp only [enumeration?, Entries.member, Entries.hasMember, objectText_congr h,
    h "enum" (by decide), h "properties" (by decide), h "type" (by decide)]

/-- Nodes with the same members of these names have the same type. -/
theorem typeText_congr : typeText (.map node') = typeText (.map node) := by
  unfold typeText
  rw [table?_congr (h "schema" (by decide))]
  simp only [Entries.member, structureText_congr h, h "$ref" (by decide), h "nullable" (by decide)]

end Congr

end TypeText

/-! ## Nodes -/

namespace Parameter

variable {node node' : Entries}

/-- The names of the members that a parameter depends on, apart from its place. -/
def nodeNames : List String :=
  TypeText.typeNames ++
    ["name", "description", "default", "x-name-pattern", "x-exclude-from-bindings", "x-proxy-header"]

section Congr

variable (h : ∀ name ∈ nodeNames, node'.member? name = node.member? name)

include h

theorem member_congr : ∀ name ∈ nodeNames, node'.member name = node.member name := by
  intro name hname
  rw [Entries.member, Entries.member, h name hname]

theorem ownOrSchema_congr : ∀ name ∈ nodeNames, ownOrSchema node' name = ownOrSchema node name := by
  intro name hname
  rw [ownOrSchema, ownOrSchema, innerSchema, innerSchema, h name hname, h "schema" (by decide)]

/-- A parameter depends on a few members of its node only. -/
theorem ofNode_congr (text : String) (location : Location) :
    ofNode text node' location = ofNode text node location := by
  have htype : TypeText.typeText (.map node') = TypeText.typeText (.map node) :=
    TypeText.typeText_congr fun name hname => h name (List.mem_append_left _ hname)
  simp only [ofNode, onlyValue?, patternOf, ownOrSchema_congr h "enum" (by decide),
    ownOrSchema_congr h "default" (by decide), member_congr h "x-name-pattern" (by decide),
    member_congr h "required" (by decide), member_congr h "description" (by decide), htype]

/-- Nodes with the same members of these names are classified alike, if they say the same place. -/
theorem classify_congr {locationField locationField' : String} (serverSide : Bool)
    (hlocation : node'.member? locationField' = node.member? locationField) :
    (classify serverSide locationField' (.map node')).outcome =
      (classify serverSide locationField (.map node)).outcome := by
  have hword : node'.member locationField' = node.member locationField := by
    rw [Entries.member, Entries.member, hlocation]
  have hplace : place serverSide locationField' node' = place serverSide locationField node := by
    simp only [place, member_congr h "x-exclude-from-bindings" (by decide),
      member_congr h "x-proxy-header" (by decide), hword]
  have hname : nameText node' = nameText node := by
    rw [nameText, nameText, h "name" (by decide)]
  simp only [classify, Value.table, Traced.outcome_bind, Traced.outcome_lift, ok_bind, hname, hplace,
    ofNode_congr h]

end Congr

end Parameter

/-! ## Places under the new name -/

namespace Upgrade

variable {node : Value}

theorem CommonParameter.pointer? (h : CommonParameter node) : Reference.pointer? node = none := by
  rw [Reference.pointer?, h.reference]
  rfl

/-- A common node has a place under the new name, and is no reference. -/
theorem parameter_of_common (h : CommonParameter node) :
    (parameter node).isMap = true ∧ Reference.pointer? (parameter node) = none := by
  cases node with
  | map entries =>
      have hreference : (renamed "paramType" "in" entries).member? "$ref" = none :=
        (member?_renamed_of_ne (by decide) (by decide) entries).trans h.reference
      refine ⟨rfl, ?_⟩
      simp only [Reference.pointer?, parameter, Value.member?, Value.entries?, Option.bind_some,
        hreference, Option.bind_none]
  | _ =>
      cases h.isMap

/-- A common node is classified alike by its place under either name. -/
theorem classify_parameter (serverSide : Bool) (h : CommonParameter node) :
    (Parameter.classify serverSide "in" (parameter node)).outcome =
      (Parameter.classify serverSide "paramType" node).outcome := by
  cases node with
  | map entries =>
      refine Parameter.classify_congr (fun name hname => ?_) serverSide (member?_renamed h.location)
      -- Neither name of the place is read for anything else.
      have hnames : ∀ name ∈ Parameter.nodeNames, name ≠ "paramType" ∧ name ≠ "in" := by decide
      exact member?_renamed_of_ne (hnames name hname).1 (hnames name hname).2 entries
  | _ =>
      cases h.isMap

end Upgrade
end ApiView
