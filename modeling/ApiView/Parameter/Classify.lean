import ApiView.Naming.Words
import ApiView.Trace
import ApiView.TypeText
import ApiView.Value.Access
import ApiView.Value.Check
import ApiView.View.Model

/-!
# Classifying parameters

A parameter node of a document becomes a parameter of the view, or is dropped: when it is excluded
from bindings, when it is a header that a proxy sends and the target is no server, or when its
location is unknown.

* `locationOf?`: the location that a word names;
* `Parameter.Drop`, `Parameter.place`: why a node is dropped, and where it travels otherwise;
* `Parameter.classify`: the parameter of a node;
* `allOptional`: whether no argument of a method has to be given.
-/

namespace ApiView

def locationOf? (word : Scalar) : Option Location :=
  match word with
  | .str "path" => some .path
  | .str "query" => some .query
  | .str "header" => some .header
  | .str "body" => some .body
  | .str "formData" => some .form
  | .str "form" => some .form
  | _ => none

namespace Parameter

/-! ## Reading a node -/

/-- The name of a parameter node, whatever kind of value it is. -/
def nameText (node : Entries) : Except Failure String :=
  ((node.member? "name").getD (.str "")).displayed

def innerSchema (node : Entries) : Entries :=
  ((node.member? "schema").bind Value.entries?).getD []

def ownOrSchema (node : Entries) (name : String) : Value :=
  ((node.member? name).orElse fun _ => (innerSchema node).member? name).getD .null

/-- The only value of an enumeration that has one. -/
def onlyValue? (node : Entries) : Option Value :=
  match ownOrSchema node "enum" with
  | .list [v] => some v
  | _ => none

/-- The pattern of a query parameter's name. -/
def patternOf (node : Entries) (location : Location) : Value :=
  let pattern := node.member "x-name-pattern"
  if location == .query && pattern.truthy then pattern else .null

/-- A default in JSON, where there is one. -/
def defaultText (v : Value) : Except Failure (Option String) :=
  if v.isNull then .ok none else (TypeText.literal v).map some

/-! ## Dropping -/

inductive Drop
  | excluded
  | proxyHeader
  | unknownLocation (shown : String)
deriving DecidableEq, Repr

def Drop.text (name : String) : Drop → String
  | .excluded => "Parameter '" ++ name ++ "' excluded from bindings"
  | .proxyHeader =>
    "Parameter '" ++ name ++ "' is a proxy header, skipped for this target"
  | .unknownLocation shown =>
    "Parameter '" ++ name ++ "' has unsupported location " ++ shown ++ ", skipped"

/-- The location of a node, or why the node is dropped. -/
def place (serverSide : Bool) (locationField : String) (node : Entries) :
    Except Failure (Except Drop Location) := do
  if (node.member "x-exclude-from-bindings").isTrue then return .error .excluded
  if (node.member "x-proxy-header").truthy && !serverSide then return .error .proxyHeader
  let word := node.member locationField
  match (← word.key).bind locationOf? with
  | some location => return .ok location
  | none => return .error (.unknownLocation word.shown)

/-! ## Classifying -/

/-- What is wrong with the fields of a parameter, whose description and pattern are given as any
values. -/
def problems (p : Parameter) (description pattern : Value) : List Problem :=
  (Value.str p.name).textProblems "name" ++
    (Value.str p.camelCaseName).textProblems "camel_case_name" ++
    description.optionalTextProblems "description" ++
    pattern.optionalTextProblems "pattern" ++
    (Value.str p.type).textProblems "ts_type"

/-- The parameter of a node at a location. -/
def ofNode (name : String) (node : Entries) (location : Location) : Except Failure Parameter := do
  let only := onlyValue? node
  let pattern := patternOf node location
  let required := (node.member "required").isTrue
  let default := ownOrSchema node "default"
  let description := node.member "description"
  let defaultJson ← defaultText default
  let type ← TypeText.typeText (.map node)
  let p : Parameter :=
    { name := name
      camelCaseName := Naming.camelCase name
      location := location
      description := description.fieldText?
      required := required
      isPath := location == .path
      isQuery := location == .query
      isHeader := location == .header
      isBody := location == .body
      isForm := location == .form
      isSingleton := only.isSome
      singleton := only.getD .null
      isPattern := !pattern.isNull
      pattern := pattern.fieldText?
      default := default
      defaultJson := defaultJson
      type := type
      cardinality := if required then "" else "?" }
  accept .parameter (p.problems description pattern) p

/-- The parameter of a node, unless it is dropped. -/
def classify (serverSide : Bool) (locationField : String) (node : Value) :
    Traced (Option Parameter) := do
  let node ← node.table
  let name ← nameText node
  match ← place serverSide locationField node with
  | .error drop =>
    Traced.note .debug .parameters (drop.text name)
    return none
  | .ok location => return some (← ofNode name node location)

end Parameter

/-- Whether no argument has to be given: path parameters are part of the address and do not
count. -/
def allOptional (parameters : List Parameter) : Bool :=
  !(parameters.any fun p => p.location != .path && p.required)

end ApiView
