import ApiView.Json.Reader
import ApiView.Json.Writer
import ApiView.Value.Plain

/-!
# Failures

Everything that can go wrong, by cause, with its wording and the exit code it leads to.

* `Defect`: a document value used at a shape it does not have;
* `Problem`: one field of a record that was refused;
* `UsageFault`, `Requirement`, `LoadFault`, `VersionFault`, `ReferenceFault`, `ConfigFault`: the
  causes of a failure that is reported in its own words;
* `Failure`: all of them, with `Failure.message` and `Failure.exitCode`;
* `Json.Obstacle.defect`, `PlainObstacle.defect`: the defects of values that cannot be written.
-/

namespace ApiView

/-! ## Shapes and records -/

/-- A document value used at a shape it does not have. -/
inductive Defect
  /-- Members were asked of something that is no mapping. -/
  | notATable
  /-- Items were asked of something that has none. -/
  | notIterable
  /-- A list or mapping was used as a key. -/
  | unhashable
  /-- Text was needed. -/
  | notText
  /-- A path that is no text. -/
  | notAPath
  /-- A position was asked of something that has none. -/
  | notIndexable
  /-- A number was needed. -/
  | notNumeric
  /-- A key that JSON has no form for. -/
  | unwritableKey
  /-- A mapping has no member of this name. -/
  | absentMember
  /-- A list or text is too short. -/
  | outOfBounds
  /-- A number that cannot be read. -/
  | badNumber
  /-- A number that is too large for its kind. -/
  | numberTooLarge
  /-- An integer with more digits than are ever displayed. -/
  | longNumber
  /-- A container inside itself, in a form that has to end. -/
  | circular
  /-- A walk through a container inside itself. -/
  | endlessNesting
  /-- A form with more levels than it may have. -/
  | tooDeep
  /-- Nesting that a reader has no room for. -/
  | noRoom
  /-- Bytes that do not say in which order they are. -/
  | noByteOrderMark
  /-- Bytes that cannot be read in the character set that is asked for. -/
  | undecodable
  /-- An address that cannot be asked. -/
  | unaskable
  /-- A half of a surrogate pair, which no text may hold. -/
  | strayHalf
  /-- A date or time that does not exist. -/
  | impossibleDate
  /-- A target that does not exist. -/
  | unknownTarget
  /-- Bytes that are no UTF-8 text. -/
  | notUtf8
  /-- A file that cannot be opened. -/
  | unopenedFile
  /-- A path with a character that no path may hold. -/
  | badPath
  /-- Templates that include each other without end. -/
  | endlessInclusion
deriving DecidableEq, Repr

/-- Records whose fields are checked. -/
inductive Record
  | options
  | parameter
  | header
  | response
  | method
  | scheme
  | definition
  | view
deriving DecidableEq, Repr

/-- Why a field was refused. -/
inductive ProblemKind
  | notText
  | notUnicode
  | notMapping
  | notList
  | notBoolean
  | unreadableBoolean
  | unknownField
  | notRecord
deriving DecidableEq, Repr

structure Problem where
  place : List Scalar
  kind : ProblemKind
deriving DecidableEq, Repr

def ProblemKind.text : ProblemKind → String
  | .notText => "a text is expected"
  | .notUnicode => "a text has to be Unicode"
  | .notMapping => "a mapping is expected"
  | .notList => "a list is expected"
  | .notBoolean => "a boolean is expected"
  | .unreadableBoolean => "not readable as a boolean"
  | .unknownField => "unknown field"
  | .notRecord => "an object is expected"

def problemsText (problems : List Problem) : String :=
  "; ".intercalate (problems.map fun p =>
    ".".intercalate (p.place.map Scalar.display) ++ ": " ++ p.kind.text)

/-! ## Causes -/

/-- Something that a template asks for and that is not there: a name, a member of a value, or an
element of one. Values are described by the word for their kind. -/
inductive Absence
  | name (s : String)
  | attribute (kind member : String)
  | element (kind index : String)
deriving DecidableEq, Repr

def Absence.text : Absence → String
  | .name s => Text.quote s ++ " is undefined"
  | .attribute kind member => Text.quote kind ++ " has no attribute " ++ Text.quote member
  | .element kind index => kind ++ " has no element " ++ index

inductive TemplateFault
  | malformed (reason : String)
  | undefined (absence : Absence)
  | notFound (name : String)
deriving DecidableEq, Repr

def TemplateFault.text : TemplateFault → String
  | .malformed reason => reason
  | .undefined absence => absence.text
  | .notFound name => name

inductive UsageFault
  | unknownTarget (shown : String) (known : List String)
  | noTemplate
  | template (fault : TemplateFault)
  | unreadableTemplate (path reason : String)
deriving DecidableEq, Repr

def UsageFault.text : UsageFault → String
  | .unknownTarget shown known =>
    "Unknown target '" ++ shown ++ "' (expected one of: " ++ ", ".intercalate known ++ ")"
  | .noTemplate => "A class template is required for the custom target"
  | .template fault => "Template error: " ++ fault.text
  | .unreadableTemplate path reason => "Cannot read template " ++ path ++ ": " ++ reason

/-- What a generation cannot do without. -/
inductive Requirement
  | document
  | className
  | destination
deriving DecidableEq, Repr

def Requirement.text : Requirement → String
  | .document => "Missing the API description document"
  | .className => "Missing the class name (required with multiple)"
  | .destination => "Missing the destination path (required with multiple)"

/-- Why a document could not be loaded. -/
inductive LoadFault
  | inputUnreadable (reason : String)
  | noInput
  | fileNotFound (path : String)
  | fileUnreadable (path reason : String)
  | fileEmpty (path : String)
  | httpStatus (status : Int) (url : String)
  | fetchFailed (url reason : String)
  | badJson (reason : String)
  | notAnObject (kind : String)
  | unreadable (json : Option String) (yaml : String)
deriving DecidableEq, Repr

/-- The wording of a load fault. -/
def LoadFault.text : LoadFault → String
  | .inputUnreadable reason => "Failed to read from stdin: " ++ reason
  | .noInput => "No input received from stdin"
  | .fileNotFound path => "Spec file not found: " ++ path
  | .fileUnreadable path reason => "Failed to read spec file " ++ path ++ ": " ++ reason
  | .fileEmpty path => "Spec file is empty: " ++ path
  | .httpStatus status url => "HTTP " ++ toString status ++ " fetching spec from " ++ url
  | .fetchFailed url reason => "Failed to fetch spec from " ++ url ++ ": " ++ reason
  | .badJson reason => "Invalid JSON: " ++ reason
  | .notAnObject kind => "Spec must be a JSON/YAML object (got " ++ kind ++ ")"
  | .unreadable json yaml =>
    "Failed to parse spec as JSON or YAML" ++
      (json.map ("\n  JSON error: " ++ ·)).getD "" ++ "\n  YAML error: " ++ yaml

inductive VersionFault
  | swagger (marker : String)
  | openApi (marker : String)
  | legacy (marker : String)
  | noMarker
  | typedLegacy
deriving DecidableEq, Repr

/-- The wording of a version fault. -/
def VersionFault.text : VersionFault → String
  | .swagger marker =>
    "Unsupported Swagger version: " ++ marker ++ ". Swagger 2.0 must declare swagger: \"2.0\"."
  | .openApi marker =>
    "Unsupported OpenAPI version: " ++ marker ++ ". Only OpenAPI 3.x is supported."
  | .legacy marker => "Unsupported swaggerVersion: " ++ marker
  | .noMarker =>
    "Missing version marker: expected 'swagger: \"2.0\"', 'openapi: \"3.x\"' " ++
      "or a Swagger 1.x 'apis' list."
  | .typedLegacy => "TypeScript output requires a Swagger 2.0 or OpenAPI 3.x document"

/-- Why a reference does not resolve. Tables are named as they are written in pointers. -/
inductive ReferenceFault
  | empty
  | emptySegment
  | external
  | wrongTable (kind : String) (tables : List String)
  | noTable (table : String)
  | absent (name table : String)
  | notAnObject (kind : String)
  | circular
  | noneShared (kind name : String)
deriving DecidableEq, Repr

/-- The wording of a reference fault. -/
def ReferenceFault.text : ReferenceFault → String
  | .empty => "empty pointer"
  | .emptySegment => "empty path segment"
  | .external => "only internal references (#/...) or bare names are supported"
  | .wrongTable kind tables =>
    "not a " ++ kind ++ " pointer (expected one of " ++ ", ".intercalate tables ++ ")"
  | .noTable table => "document has no '" ++ table ++ "' table"
  | .absent name table => "'" ++ name ++ "' not found in '" ++ table ++ "'"
  | .notAnObject kind => "target is a " ++ kind ++ ", not an object"
  | .circular => "circular reference"
  | .noneShared kind name => "no shared " ++ kind ++ " named '" ++ name ++ "'"

inductive ConfigFault
  | notJson (path reason : String)
  | notAnObject (path : String)
  | unknownTarget (shown source : String) (known : List String)
  | invalidFile (path : String) (problems : List Problem)
  | invalidOptions (problems : List Problem)
deriving DecidableEq, Repr

def ConfigFault.summary : ConfigFault → String
  | .notJson path reason => "Invalid project config at " ++ path ++ ": " ++ reason
  | .notAnObject path => "Invalid project config at " ++ path ++ ": expected a JSON object"
  | .unknownTarget shown source known =>
    "Unknown target '" ++ shown ++ "' in " ++ source ++ " (expected one of: " ++
      ", ".intercalate known ++ ")"
  | .invalidFile path _ => "Invalid options in " ++ path ++ ":"
  | .invalidOptions _ => "Invalid generation options:"

def ConfigFault.problems : ConfigFault → Option (List Problem)
  | .invalidFile _ problems | .invalidOptions problems => some problems
  | _ => none

def ConfigFault.text (f : ConfigFault) : String :=
  match f.problems with
  | some problems => f.summary ++ " " ++ problemsText problems
  | none => f.summary

/-! ## Failures -/

/-- Why a call has no result. -/
inductive Failure
  | usage (fault : UsageFault)
  | missing (requirement : Requirement)
  | load (fault : LoadFault)
  | version (fault : VersionFault)
  | reference (pointer : String) (fault : ReferenceFault)
  | ambiguous (place : String) (contentTypes : List String)
  | config (fault : ConfigFault)
  | invalid (record : Record) (problems : List Problem)
  | defect (defect : Defect)
deriving DecidableEq, Repr

namespace Failure

/-- The wording of a failure. -/
def message : Failure → String
  | usage fault => fault.text
  | missing requirement => requirement.text
  | load fault => fault.text
  | version fault => fault.text
  | reference pointer fault => "Cannot resolve $ref '" ++ pointer ++ "': " ++ fault.text
  | ambiguous place contentTypes =>
    place ++ " declares several content types (" ++ ", ".intercalate contentTypes ++
      "); only one is supported"
  | config fault => fault.text
  | invalid _ problems => problemsText problems
  | defect _ => "a part of the document does not have the expected shape"

/-- Whether a failure has words of its own, rather than being an accident of the document. -/
def isReported : Failure → Bool
  | invalid _ _ | defect _ => false
  | _ => true

/-- The exit code that a failure leads to: 2 for wrong use, 7 for a document that cannot be used,
and 1 for everything else. -/
def exitCode : Failure → Nat
  | usage _ | missing _ => 2
  | load _ | version _ | reference _ _ | ambiguous _ _ => 7
  | config _ | invalid _ _ | defect _ => 1

end Failure

/-! ## Obstacles -/

def Json.Obstacle.defect : Json.Obstacle → Defect
  | .key => .unwritableKey
  | .longNumber => .longNumber
  | .circular => .circular

def PlainObstacle.defect : PlainObstacle → Defect
  | .notUtf8 => .notUtf8
  | .strayHalf => .strayHalf
  | .circular => .circular
  | .tooDeep => .tooDeep

end ApiView
