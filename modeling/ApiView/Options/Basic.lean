/-!
# Targets and options

* `Target`: the styles of output that a view can be built for;
* `Options`: the settings of one generation.
-/

namespace ApiView

inductive Target
  | angular
  | node
  | react
  | typescript
  | custom
deriving DecidableEq, Repr

namespace Target

def all : List Target :=
  [angular, node, react, typescript, custom]

def word : Target → String
  | angular => "angular"
  | node => "node"
  | react => "react"
  | typescript => "typescript"
  | custom => "custom"

def words : List String :=
  all.map word

def ofWord? (s : String) : Option Target :=
  all.find? (·.word == s)

/-- Whether the output runs on a server, and so may send headers that a proxy would add. -/
def isServerSide : Target → Bool
  | node | react => true
  | _ => false

end Target

/-- The settings of one generation. -/
structure Options where
  className : Option String := none
  moduleName : Option String := none
  multiple : Bool := false
  requestBodyName : Option String := none
  es6 : Bool := false
  esnext : Bool := false
  imports : List String := []
  path : Option String := none
  controllersDir : Option String := none
  definitionsDir : Option String := none
  strictContentType : Bool := false
deriving DecidableEq, Repr

end ApiView
