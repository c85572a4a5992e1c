import ApiView.Failure
import ApiView.Json.Reader
import ApiView.Yaml.Document

/-!
# Documents in writing

A document is written in JSON or in YAML. A hint can fix the format; without one JSON is tried first.

* `Hint`: what is known about the format;
* `readJson`, `readYaml`: a text in either format;
* `readContent`: the members of the mapping that a text describes;
* `Room`, `readWithin`: the same for readers that have room for some nesting only.
-/

namespace ApiView

/-- What is known about the format of a text. -/
inductive Hint
  | json
  | yaml
  | unknown
deriving DecidableEq, Repr

/-- The members of a value that a text describes; a document is always a mapping. -/
def documentOf (v : Value) : Except Failure Entries :=
  match v with
  | .map entries => .ok entries
  | v => .error (.load (.notAnObject v.kindName))

/-- The value that a JSON text describes, or the words for what is wrong with it. A number too long to
be read is not a fault of the format. -/
def readJson (text : List Char) : Except Failure (Except String Value) :=
  match Json.read text with
  | .ok v => .ok (.ok v)
  | .error fault =>
    if fault.reason == .tooManyDigits then .error (.defect .badNumber)
    else .ok (.error (fault.message text))

/-- The document that a YAML text describes. The words for what was wrong with it as JSON are part of
the failure. -/
def readYaml (jsonFault : Option String) (text : List Char) : Except Failure Entries :=
  match Yaml.read text with
  | .ok v =>
    if v.isNull then .error (.load (.notAnObject "empty document")) else documentOf v
  | .error (.malformed reason) => .error (.load (.unreadable jsonFault reason))
  | .error (.defect d) => .error (.defect d)

def readContent (hint : Hint) (text : List Char) : Except Failure Entries :=
  if hint == .yaml then readYaml none text
  else do
    match ← readJson text with
    | .ok v => documentOf v
    | .error fault =>
      if hint == .json then throw (.load (.badJson fault)) else readYaml (some fault) text

/-! ## Room -/

/-- The texts that the two readers have room for. Both go down into a text by recursion, and how far
they come depends on the machine and not on the text alone. -/
structure Room where
  json : List Char → Bool := fun _ => true
  yaml : List Char → Bool := fun _ => true

/-- Whether a text is read as YAML: it is known to be, or nothing is known of it and it is no JSON. -/
def triesYaml (hint : Hint) (text : List Char) : Bool :=
  match hint with
  | .yaml => true
  | .json => false
  | .unknown =>
    match Json.read text with
    | .ok _ => false
    | .error fault => fault.reason != .tooManyDigits

def Room.fits (room : Room) (hint : Hint) (text : List Char) : Bool :=
  (hint == .yaml || room.json text) && (!triesYaml hint text || room.yaml text)

/-- The document that a text describes, if there is room for it. -/
def readWithin (room : Room) (hint : Hint) (text : List Char) : Except Failure Entries :=
  if room.fits hint text then readContent hint text else .error (.defect .noRoom)

end ApiView
