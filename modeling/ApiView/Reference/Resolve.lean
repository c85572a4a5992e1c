import ApiView.Reference.Pointer

/-!
# Resolving references

Shared parameters, schemas, request bodies and responses live in tables of the document. A reference
names an entry of one of the tables of its kind, by a pointer or by a bare name.

* `Kind`, `Kind.tables`: what a reference designates, and where it may live;
* `table?`: a table of a document;
* `resolve`: the entry that a pointer names;
* `deref`: a node after following references to the end.
-/

namespace ApiView
namespace Reference

/-! ## Tables -/

inductive Kind
  | parameter
  | schema
  | requestBody
  | response
deriving DecidableEq, Repr

def Kind.word : Kind → String
  | .parameter => "parameter"
  | .schema => "schema"
  | .requestBody => "requestBody"
  | .response => "response"

/-- The paths of the tables of a kind, in the order in which bare names are looked up. -/
def Kind.tables : Kind → List (List String)
  | .parameter => [["parameters"], ["components", "parameters"]]
  | .schema => [["definitions"], ["components", "schemas"], ["models"]]
  | .requestBody => [["components", "requestBodies"]]
  | .response => [["responses"], ["components", "responses"]]

/-- A table path as it is written at the start of a pointer. -/
def tableText (path : List String) : String :=
  "#/" ++ "/".intercalate path ++ "/"

def table? (document : Value) : List String → Option Entries
  | [] => document.entries?
  | name :: rest => (document.member? name).bind fun v => table? v rest

/-! ## Single references -/

/-- An entry of a table as a node: it has to be a mapping. -/
def asNode (pointer : String) : Value → Except Failure Entries
  | .map entries => .ok entries
  | v => .error (.reference pointer (.notAnObject v.kindName))

/-- The entry of the first table of a kind that has the name. -/
def resolveName (document : Value) (kind : Kind) (pointer name : String) :
    Except Failure Entries :=
  match kind.tables.findSome? fun path => (table? document path).bind (·.member? name) with
  | some v => asNode pointer v
  | none => .error (.reference pointer (.noneShared kind.word name))

/-- The entry of the table at a path. -/
def resolveIn (document : Value) (kind : Kind) (pointer : String) (path : List String)
    (name : String) : Except Failure Entries :=
  if kind.tables.contains path then
    match table? document path with
    | none => .error (.reference pointer (.noTable (tableText path)))
    | some entries =>
      match entries.member? name with
      | none => .error (.reference pointer (.absent name (tableText path)))
      | some v => asNode pointer v
  else
    .error (.reference pointer (.wrongTable kind.word (kind.tables.map tableText)))

/-- The entry that a pointer names in a table of its kind. -/
def resolve (document : Value) (kind : Kind) (pointer : String) : Except Failure Entries := do
  match ← Pointer.parse pointer with
  | [name] => resolveName document kind pointer name
  | segments => resolveIn document kind pointer segments.dropLast (segments.getLastD "")

/-! ## Chains of references -/

def pointer? (node : Value) : Option String :=
  (node.member? "$ref").bind Value.text?

def entryCount (document : Value) (kind : Kind) : Nat :=
  (kind.tables.flatMap fun path => (table? document path).getD []).length

/-- Follow references, `seen` being the pointers followed so far. A chain longer than the number of
entries repeats one. -/
def follow (document : Value) (kind : Kind) (seen : List String) :
    Nat → Value → Except Failure Value
  | fuel, node =>
    match pointer? node with
    | none => .ok node
    | some pointer =>
      if seen.contains pointer then .error (.reference pointer .circular)
      else
        match fuel with
        | 0 => .error (.reference pointer .circular)
        | fuel + 1 => do
          let entries ← resolve document kind pointer
          follow document kind (pointer :: seen) fuel (.map entries)

/-- A node after following references to the end; a node that is none is left alone. -/
def deref (document : Value) (kind : Kind) (node : Value) : Except Failure Value :=
  follow document kind [] (entryCount document kind + 1) node

end Reference
end ApiView
