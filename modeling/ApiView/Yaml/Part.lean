import ApiView.Yaml.Outcome
import ApiView.Yaml.Scalar

/-!
# Parts of documents

What a node contributes to the document around it: a value, a key, the text of a scalar, or members
that a mapping takes over with the key `<<`. Its own members win, and so do those of mappings that are
named earlier.

* `Tag`, `NodeType`: what a node says about its value, and the type that it names;
* `Part`: what a node contributes;
* `Part.ofScalar`, `Part.ofItems`, `Part.ofPairs`: scalars, sequences and mappings;
* `Part.again`: a container inside itself, where it is cut off.
-/

namespace ApiView
namespace Yaml

/-! ## Types -/

/-- What a node says about its value: nothing, that it is not plain, or the name of a type. -/
inductive Tag
  | implicit
  | quoted
  | named (name : String)
deriving DecidableEq, Repr

/-- The types of nodes. -/
inductive NodeType
  | scalar (type : ScalarType)
  | sequence
  | mapping
  | set
  /-- A row of single members, in order or not. -/
  | row
deriving DecidableEq, Repr

/-- The type that the name of a tag stands for. -/
def tagType? (name : String) : Option NodeType :=
  match name with
  | "tag:yaml.org,2002:str" => some (.scalar .str)
  | "tag:yaml.org,2002:null" => some (.scalar .null)
  | "tag:yaml.org,2002:bool" => some (.scalar .bool)
  | "tag:yaml.org,2002:int" => some (.scalar .int)
  | "tag:yaml.org,2002:float" => some (.scalar .float)
  | "tag:yaml.org,2002:timestamp" => some (.scalar .timestamp)
  | "tag:yaml.org,2002:binary" => some (.scalar .binary)
  | "tag:yaml.org,2002:merge" => some (.scalar .merge)
  | "tag:yaml.org,2002:value" => some (.scalar .default)
  | "tag:yaml.org,2002:seq" => some .sequence
  | "tag:yaml.org,2002:map" => some .mapping
  | "tag:yaml.org,2002:set" => some .set
  | "tag:yaml.org,2002:omap" | "tag:yaml.org,2002:pairs" => some .row
  | _ => none

/-- The type that a tag names, given the one of a node without a tag. -/
def Tag.type? (untagged : NodeType) : Tag → Option NodeType
  | .implicit | .quoted => some untagged
  | .named name => tagType? name

def Tag.scalarType? (tag : Tag) (text : List Char) : Option NodeType :=
  match tag with
  | .implicit => some (.scalar (resolve text))
  | tag => tag.type? (.scalar .str)

/-! ## Parts -/

def unfit : Fault :=
  .malformed "the tag does not fit the node"

def memberless : Fault :=
  .malformed "expected a mapping or list of mappings for merging"

def unpaired : Fault :=
  .malformed "expected a single mapping"

/-- What a node contributes to a document: its type; what it amounts to; what it is as a key; its text,
with its place, where it is read as a scalar; its members, if it is a mapping; the members that it
offers to be taken over; and its only pair, where it stands in a row of single members. -/
structure Part where
  type? : Option NodeType
  outcome : Outcome
  key : Except Fault Scalar
  text : Except Fault (List Char × Nat) := .error unfit
  members : Except Fault (List Member) := .error memberless
  offered : Except Fault (List Member) := .error memberless
  single : Except Fault (Outcome × Outcome) := .error unpaired

/-- What a node of a type amounts to, from what it is as a scalar and as a container. -/
def NodeType.outcome (scalar : ScalarType → Except Fault Scalar) (container : NodeType → Outcome) :
    Option NodeType → Outcome
  | some (.scalar type) => .ofScalar (scalar type)
  | some type => container type
  | none => .failed unfit

/-- What a node of a type is as a key. The key of a default is a text here. -/
def NodeType.key (scalar : ScalarType → Except Fault Scalar) : Option NodeType → Except Fault Scalar
  | some (.scalar .default) => scalar .str
  | some (.scalar type) => scalar type
  | some _ => malformed "found unhashable key"
  | none => .error unfit

namespace Part

/-- Whether a part is the key that takes over members. -/
def isMerge (p : Part) : Bool :=
  p.type? == some (.scalar .merge)

/-- Whether a part is the key of the value that stands for its mapping. -/
def isDefault (p : Part) : Bool :=
  p.type? == some (.scalar .default)

def ofScalar (tag : Tag) (place : Nat) (text : List Char) : Part :=
  let type? := tag.scalarType? text
  let scalar (type : ScalarType) := construct type place text
  { type? := type?
    outcome := NodeType.outcome scalar (fun _ => .unfilled unfit) type?
    key := NodeType.key scalar type?
    text := .ok (text, place) }

/-- A sequence of items. It offers the members of its items, the last of them first so that the first
wins. -/
def ofItems (tag : Tag) (items : List Part) : Part :=
  let type? := tag.type? .sequence
  let scalar (_ : ScalarType) : Except Fault Scalar := .error unfit
  let container : NodeType → Outcome
    | .sequence => .ofItems (items.map (·.outcome))
    | .row => .ofRow (items.map (·.single))
    | _ => .unfilled unfit
  { type? := type?
    outcome := NodeType.outcome scalar container type?
    key := NodeType.key scalar type?
    offered := do return (← items.mapM (·.members)).reverse.flatten }

/-- The members of a mapping, those taken over first. What cannot be taken over is a fault of the
mapping. -/
def membersOf (pairs : List (Part × Part)) : Except Fault (List Member) := do
  let taken ← (pairs.filter (·.1.isMerge)).mapM (·.2.offered)
  let own := pairs.filter fun (k, _) => !k.isMerge
  return taken.flatten ++ own.map fun (k, v) => (k.key, v.outcome)

/-- The text of a mapping that is read as a scalar: that of its default. -/
def defaultText (pairs : List (Part × Part)) : Except Fault (List Char × Nat) :=
  match pairs.find? (·.1.isDefault) with
  | some (_, v) => v.text
  | none => .error unfit

/-- The only pair of a mapping. Nothing is taken over into it. -/
def singleOf : List (Part × Part) → Except Fault (Outcome × Outcome)
  | [(k, v)] => .ok (k.outcome, v.outcome)
  | _ => .error unpaired

/-- A mapping of pairs. A time is looked for in the mapping itself, which is no text. -/
def ofPairs (tag : Tag) (pairs : List (Part × Part)) : Part :=
  let type? := tag.type? .mapping
  let text := defaultText pairs
  let members := membersOf pairs
  let scalar (type : ScalarType) : Except Fault Scalar := do
    let (text, place) ← text
    if type == .timestamp then .error (.defect .notText) else construct type place text
  let container (type : NodeType) : Outcome :=
    match type, members with
    | .mapping, .ok members => .ofMembers members
    | .set, .ok members => .ofSet members
    | .mapping, .error fault | .set, .error fault => .unfilled fault
    | _, _ => .unfilled unfit
  { type? := type?
    outcome := NodeType.outcome scalar container type?
    key := NodeType.key scalar type?
    text := text
    members := members
    offered := members
    single := singleOf pairs }

/-- A container inside itself, where it is cut off. -/
def again (isMap : Bool) (places : List Nat) : Part where
  type? := none
  outcome := { value := .again isMap places }
  key := malformed "found unhashable key"
  text := .error (.defect .endlessNesting)
  members := .ok []
  offered := .ok []
  single := .ok ({ value := .null }, { value := .again isMap places })

def missing : Part where
  type? := none
  outcome := .failed unfit
  key := .error unfit

end Part
end Yaml
end ApiView
