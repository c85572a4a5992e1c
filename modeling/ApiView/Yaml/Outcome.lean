import ApiView.Yaml.Cursor

/-!
# What the parts of a document amount to

Every part of a document has a value or a fault. Containers are begun before they are filled, one level
of the document after the other, so of several faults the one that counts is the first of the level
nearest to the root.

* `Outcome`: a value with the faults that were met, by level;
* `Member`: a key with the outcome of its value;
* `Outcome.ofScalar`, `Outcome.ofItems`, `Outcome.ofMembers`, `Outcome.ofSet`, `Outcome.ofRow`: the
  outcomes of wholes;
* `Outcome.result`: the value or the fault that counts.
-/

namespace ApiView
namespace Yaml

/-- What a part of a document amounts to: a value, which is used only if there is no fault; the fault
that keeps the part from being begun, if there is one; and the first faults of the levels inside. -/
structure Outcome where
  value : Value
  failure : Option Fault := none
  inside : List (Option Fault) := []

abbrev Member := Except Fault Scalar × Outcome

/-- The first faults of every level of two neighbours. -/
def mergeLevels : List (Option Fault) → List (Option Fault) → List (Option Fault)
  | [], levels => levels
  | levels, [] => levels
  | a :: as, b :: bs => a.orElse (fun _ => b) :: mergeLevels as bs

def Member.failure (member : Member) : Option Fault :=
  match member.1 with
  | .ok _ => member.2.failure
  | .error fault => some fault

/-- A member as it stands in a mapping, if it has a key. -/
def Member.entry? (member : Member) : Option (Scalar × Value) :=
  member.1.toOption.map fun key => (key, member.2.value)

namespace Outcome

def failed (fault : Fault) : Outcome :=
  { value := .null, failure := some fault }

/-- A container that is begun but cannot be filled. -/
def unfilled (fault : Fault) : Outcome :=
  { value := .null, inside := [some fault] }

def ofScalar : Except Fault Scalar → Outcome
  | .ok s => { value := .scalar s }
  | .error fault => failed fault

def ofItems (items : List Outcome) : Outcome where
  value := .list (items.map (·.value))
  inside := items.findSome? (·.failure) :: (items.map (·.inside)).foldr mergeLevels []

def ofMembers (members : List Member) : Outcome where
  value := .map (Entries.ofPairs (members.filterMap Member.entry?))
  inside := members.findSome? Member.failure :: (members.map (·.2.inside)).foldr mergeLevels []

/-- A set whose members are the keys of these. Their values are read, and then left out. -/
def ofSet (members : List Member) : Outcome where
  value := .set (Entries.ofPairs (members.filterMap Member.entry?)).keys
  inside := (ofMembers members).inside

/-- A row of single members, whose keys may be any values. -/
def ofRow (row : List (Except Fault (Outcome × Outcome))) : Outcome where
  value := .list (row.filterMap fun m => m.toOption.map fun (k, v) => .pair k.value v.value)
  inside :=
    let outcomes := row.flatMap fun
      | .ok (k, v) => [k, v]
      | .error fault => [failed fault]
    outcomes.findSome? (·.failure) :: (outcomes.map (·.inside)).foldr mergeLevels []

/-- The value of a document, or the first fault of the level nearest to its root. -/
def result (o : Outcome) : Except Fault Value :=
  match (o.failure :: o.inside).findSome? id with
  | some fault => .error fault
  | none => .ok o.value

end Outcome
end Yaml
end ApiView
