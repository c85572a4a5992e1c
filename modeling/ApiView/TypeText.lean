import ApiView.Json.Writer
import ApiView.Reference.Pointer

/-!
# Type expressions

A schema as a TypeScript type. References are named, never followed.

* `literal`: a JSON value as a literal type;
* `typeText`: the type of a schema, parameter or header node.

In order of precedence: an inner `schema`, a reference, an enumeration (a union of literals), a
composition (`allOf` an intersection, `oneOf` and `anyOf` unions), and the declared `type`. A schema that
contains itself has no type: the way through it does not end.
-/

namespace ApiView
namespace TypeText

/-! ## Leaves -/

def literal (v : Value) : Except Failure String :=
  match Json.obstacle? v with
  | none => .ok (String.ofList (Json.compact v))
  | some obstacle => .error (.defect obstacle.defect)

/-- The type of a declared type name; an unknown one names a model. -/
def primitive (name : String) : String :=
  match name with
  | "string" => "string"
  | "integer" => "number"
  | "number" => "number"
  | "boolean" => "boolean"
  | "null" => "null"
  | "file" => "any"
  | "void" => "void"
  | other => other

def enumeration? (node : Entries) : Option (List Value) :=
  match node.member? "enum" with
  | some (.list (v :: rest)) => some (v :: rest)
  | _ => none

/-- A member that is a mapping, or one that is cut off. -/
def table? (node : Entries) (name : String) : Option Value :=
  (node.member? name).filter fun
    | .map _ | .again true _ => true
    | _ => false

/-- The items of a list member that has any. A list that is cut off is inside itself, so that what it holds
is cut off too. -/
def someItems? (node : Entries) (name : String) : Option (List Value) :=
  match node.member? name with
  | some (.list (v :: rest)) => some (v :: rest)
  | some (.again false places) => some [.again true places]
  | _ => none

/-- The names that a `required` list holds, as keys. A pair names nothing. -/
def requiredKeys (node : Entries) : Except Failure (List Scalar) := do
  let required := node.member "required"
  if required.truthy then return (← (← required.iterate).mapM Value.key).reduceOption
  else return []

def memberName (required : List Scalar) (name : Scalar) : Except Failure String := do
  return "'" ++ (← name.displayed) ++ "'" ++ if required.any (·.same name) then "" else "?"

mutual

/-- The type of a declared `type`, given the types of arrays and objects of the node. A list of types
is a union. -/
def declared (array object : Except Failure String) (hasProperties : Bool) :
    Value → Except Failure String
  | .list types => do
    let union := " | ".intercalate (← declaredAll array object hasProperties types)
    return if union == "" then "any" else union
  | .scalar .null => if hasProperties then object else .ok "any"
  | .scalar (.str name) =>
    if name == "array" then array
    else if name == "object" then object
    else .ok (primitive name)
  | .again false _ => .error (.defect .endlessNesting)
  | _ => .ok "any"

def declaredAll (array object : Except Failure String) (hasProperties : Bool) :
    List Value → Except Failure (List String)
  | [] => .ok []
  | type :: rest => do
    let text ← declared array object hasProperties type
    return text :: (← declaredAll array object hasProperties rest)

end

/-! ## Schemas -/

/-- A member of a mapping is smaller than the mapping, and so is a row of it alone. -/
theorem sizeOf_find? {key : Scalar} {entries : Entries} {v : Value}
    (h : Entries.find? key entries = some v) : sizeOf v + 2 < sizeOf entries := by
  induction entries with
  | nil => simp [Entries.find?] at h
  | cons entry rest ih =>
    obtain ⟨k, w⟩ := entry
    simp only [Entries.find?] at h
    split at h
    · cases h
      have hrest : 0 < sizeOf rest := by
        cases rest with
        | nil => simp
        | cons head tail => simp only [List.cons.sizeOf_spec]; omega
      simp only [List.cons.sizeOf_spec, Prod.mk.sizeOf_spec]
      omega
    · have := ih h
      simp only [List.cons.sizeOf_spec]
      omega

theorem sizeOf_member? {name : String} {entries : Entries} {v : Value}
    (h : entries.member? name = some v) : sizeOf v + 2 < sizeOf entries :=
  sizeOf_find? h

theorem sizeOf_table? {name : String} {node : Entries} {v : Value}
    (h : table? node name = some v) : sizeOf v < sizeOf node := by
  have := sizeOf_member? (Option.filter_eq_some_iff.1 h).1
  omega

theorem sizeOf_someItems? {name : String} {node : Entries} {items : List Value}
    (h : someItems? node name = some items) : sizeOf items < sizeOf node := by
  unfold someItems? at h
  split at h
  · rename_i hmember
    cases h
    have := sizeOf_member? hmember
    simp only [Value.list.sizeOf_spec] at this
    omega
  · rename_i hmember
    cases h
    have := sizeOf_member? hmember
    simp only [Value.again.sizeOf_spec, Bool.sizeOf_eq_one, List.cons.sizeOf_spec,
      List.nil.sizeOf_spec] at this ⊢
    omega
  · cases h

def withNull (nullable : Bool) (type : String) : String :=
  if nullable && type != "any" && type != "null" then type ++ " | null" else type

mutual

/-- The type of a schema, parameter or header node. -/
def typeText : Value → Except Failure String
  | .map node =>
    match _h : table? node "schema" with
    | some schema => typeText schema
    | none =>
      match (Entries.member? node "$ref").bind Value.text? with
      | some pointer => Reference.Pointer.name pointer
      | none => do
        let type ← structureText node
        return withNull (Entries.member node "nullable").isTrue type
  | .again true _ => .error (.defect .endlessNesting)
  | _ => .ok "any"
termination_by v => 2 * sizeOf v
decreasing_by
  · have := sizeOf_table? _h
    simp only [Value.map.sizeOf_spec]
    omega
  · simp only [Value.map.sizeOf_spec]
    omega

/-- The type of a node that has no inner schema and is no reference. -/
def structureText (node : Entries) : Except Failure String :=
  match enumeration? node with
  | some values => do
    return " | ".intercalate (← values.mapM literal)
  | none =>
    -- An empty list composes nothing, so each of the three asks for a first schema.
    match _h : someItems? node "allOf" with
    | some members => do
      return " & ".intercalate (← typeTexts members)
    | none =>
      match _h : someItems? node "oneOf" with
      | some members => do
        return " | ".intercalate (← typeTexts members)
      | none =>
        match _h : someItems? node "anyOf" with
        | some members => do
          return " | ".intercalate (← typeTexts members)
        | none =>
          let array := do
            let items ← match _h : Entries.member? node "items" with
              | some items => typeText items
              | none => .ok "any"
            return "Array<" ++ items ++ ">"
          declared array (objectText node) (Entries.hasMember node "properties")
            (Entries.member node "type")
-- One more than for `objectText`, which is given the same node.
termination_by 2 * sizeOf node + 1
decreasing_by
  iterate 3
    · have := sizeOf_someItems? _h
      omega
  · have := sizeOf_member? _h
    omega
  · omega

/-- The type of an object: its members, or else an index signature. -/
def objectText (node : Entries) : Except Failure String :=
  match _h : Entries.member? node "properties" with
  | some (.map (p :: ps)) => do
    let required ← requiredKeys node
    return "\x7b " ++ "; ".intercalate (← memberTexts required (p :: ps)) ++ " \x7d"
  | some (.again true _) => .error (.defect .endlessNesting)
  | _ =>
    match _h : table? node "additionalProperties" with
    | some schema => do
      return "\x7b [key: string]: " ++ (← typeText schema) ++ " \x7d"
    | none =>
      .ok (if (Entries.member node "additionalProperties").isTrue then "\x7b [key: string]: any \x7d"
        else "\x7b\x7d")
termination_by 2 * sizeOf node
decreasing_by
  · have := sizeOf_member? _h
    simp only [Value.map.sizeOf_spec] at this
    omega
  · have := sizeOf_table? _h
    omega

def typeTexts : List Value → Except Failure (List String)
  | [] => .ok []
  | v :: rest => do
    let text ← typeText v
    return text :: (← typeTexts rest)
termination_by vs => 2 * sizeOf vs
decreasing_by
  all_goals
    simp only [List.cons.sizeOf_spec]
    omega

def memberTexts (required : List Scalar) : List (Scalar × Value) → Except Failure (List String)
  | [] => .ok []
  | (name, v) :: rest => do
    let member ← memberName required name
    let type ← typeText v
    return (member ++ ": " ++ type) :: (← memberTexts required rest)
termination_by ms => 2 * sizeOf ms
decreasing_by
  all_goals
    simp only [List.cons.sizeOf_spec, Prod.mk.sizeOf_spec]
    omega

end

end TypeText
end ApiView
