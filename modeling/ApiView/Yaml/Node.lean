import ApiView.Yaml.Part

/-!
# YAML nodes

A text describes a tree of nodes. An alias stands for the node that carries its anchor. Inside that
node it makes the tree endless; such a node is written out for some rounds and then cut off. What walks
down without an end fails at the cut, see `Value.again`.

* `Node`: scalars, sequences and mappings;
* `Node.part`: what a node contributes to the document;
* `Node.awaited`: aliases of nodes that are still being read;
* `Node.closed`, `Node.settled`, `Node.completed`: what becomes of them.
-/

namespace ApiView
namespace Yaml

/-- A node of a YAML document, with its place in the text. -/
inductive Node
  | scalar (tag : Tag) (place : Nat) (text : List Char)
  | sequence (tag : Tag) (place : Nat) (items : List Node)
  | mapping (tag : Tag) (place : Nat) (pairs : List (Node × Node))
  /-- A node that is known as a part already, so that its aliases share it. -/
  | known (part : Part)
  /-- An alias of a node that is still being read, by its anchor. -/
  | pending (anchor : String)
  /-- A node inside itself, cut off after some rounds: whether it is a mapping, and the places of the
  nodes around it. -/
  | again (isMap : Bool) (places : List Nat)

namespace Node

def empty : Node :=
  .scalar .implicit 0 []

def isMap : Node → Bool
  | .mapping _ _ _ => true
  | _ => false

/-! ## Parts -/

mutual

/-- What a node contributes to the document. -/
def part : Node → Part
  | .scalar tag place text => .ofScalar tag place text
  | .sequence tag _ items => .ofItems tag (itemParts items)
  | .mapping tag _ pairs => .ofPairs tag (pairParts pairs)
  | .known part => part
  | .pending _ => .missing
  | .again isMap places => .again isMap places

def itemParts : List Node → List Part
  | [] => []
  | n :: rest => n.part :: itemParts rest

def pairParts : List (Node × Node) → List (Part × Part)
  | [] => []
  | (k, v) :: rest => (k.part, v.part) :: pairParts rest

end

/-! ## Aliases inside their nodes -/

mutual

/-- The anchors of the aliases in a node whose nodes are still being read. -/
def awaited : Node → List String
  | .scalar _ _ _ | .known _ | .again _ _ => []
  | .sequence _ _ items => awaitedByItems items
  | .mapping _ _ pairs => awaitedByPairs pairs
  | .pending anchor => [anchor]

def awaitedByItems : List Node → List String
  | [] => []
  | n :: rest => n.awaited ++ awaitedByItems rest

def awaitedByPairs : List (Node × Node) → List String
  | [] => []
  | (k, v) :: rest => k.awaited ++ v.awaited ++ awaitedByPairs rest

end

mutual

/-- A node with another one in the place of each alias of an anchor. -/
def replace (anchor : String) (other : Node) : Node → Node
  | .sequence tag place items => .sequence tag place (replaceItems anchor other items)
  | .mapping tag place pairs => .mapping tag place (replacePairs anchor other pairs)
  | .pending name => if name == anchor then other else .pending name
  | .scalar tag place text => .scalar tag place text
  | .known part => .known part
  | .again isMap places => .again isMap places

def replaceItems (anchor : String) (other : Node) : List Node → List Node
  | [] => []
  | n :: rest => replace anchor other n :: replaceItems anchor other rest

def replacePairs (anchor : String) (other : Node) : List (Node × Node) → List (Node × Node)
  | [] => []
  | (k, v) :: rest =>
    (replace anchor other k, replace anchor other v) :: replacePairs anchor other rest

end

mutual

/-- A node below others, whose places are told wherever a node is cut off. -/
def placedBelow (above : List Nat) : Node → Node
  | .sequence tag place items => .sequence tag place (itemsBelow (place :: above) items)
  | .mapping tag place pairs => .mapping tag place (pairsBelow (place :: above) pairs)
  | .again isMap _ => .again isMap above
  | .scalar tag place text => .scalar tag place text
  | .known part => .known part
  | .pending name => .pending name

def itemsBelow (above : List Nat) : List Node → List Node
  | [] => []
  | n :: rest => n.placedBelow above :: itemsBelow above rest

def pairsBelow (above : List Nat) : List (Node × Node) → List (Node × Node)
  | [] => []
  | (k, v) :: rest => (k.placedBelow above, v.placedBelow above) :: pairsBelow above rest

end

/-- How many rounds of a node that contains itself are written out after the first. A reader that goes down
further, and would come back, finds the cut. -/
def rounds : Nat := 3

/-- A node with itself in the place of the aliases of its anchor, for a number of rounds. -/
def repeated (anchor : String) (n : Node) : Nat → Node
  | 0 => replace anchor (.again n.isMap []) n
  | k + 1 => replace anchor (repeated anchor n k) n

/-- A node that has been read to its end, without aliases of its own anchor. -/
def closed (anchor : String) (n : Node) : Node :=
  if n.awaited.contains anchor then n.repeated anchor rounds else n

/-- A node as a part, if it awaits no other. -/
def settled (n : Node) : Node :=
  if n.awaited.isEmpty then .known (n.placedBelow []).part else n

/-- A node after the one of an anchor that it may await. -/
def completed (anchor : String) (whole n : Node) : Node :=
  if n.awaited.contains anchor then (replace anchor whole n).settled else n

end Node
end Yaml
end ApiView
