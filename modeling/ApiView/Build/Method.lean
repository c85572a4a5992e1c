import ApiView.Naming.Method
import ApiView.Operation.Walk
import ApiView.Options.Basic
import ApiView.Parameter.Classify
import ApiView.Reference.Resolve

/-!
# Assembling methods

The steps that every grammar shares on the way from an operation to a method. A method is drafted
under its base name, before names are made distinct, so that a draft depends on its own operation
alone.

* `Setup`: what a build works with;
* `baseName`: the name that an operation asks for;
* `classifyAll`: the parameters of an operation;
* `quotedList`, `markLast`: values of headers, and the last response;
* `assemble`: the method of an operation.
-/

namespace ApiView
namespace Build

structure Setup where
  document : Entries
  options : Options
  serverSide : Bool

namespace Setup

def deref (setup : Setup) (kind : Reference.Kind) (node : Value) : Except Failure Value :=
  Reference.deref (.map setup.document) kind node

end Setup

/-! ## Names -/

def nameOfPath (verb : Verb) : Scalar → Except Failure String
  | .str path => .ok (Naming.pathName verb.word path)
  | .bytes _ => .error (.defect .notText)
  | _ => .error (.defect .notAPath)

/-- The name that an operation asks for: its explicit id, or else the name of its verb and path. -/
def baseName (op : Operation) (explicit : Value) : Except Failure String :=
  match explicit.text? with
  | some id =>
    if Text.isBlankText id then nameOfPath op.verb op.path else .ok (Naming.identifier id)
  | none => nameOfPath op.verb op.path

/-! ## Parameters -/

/-- The parameters of a row of nodes, references followed; nodes that are dropped or are no mappings
are left out. -/
def classifyAll (setup : Setup) (locationField : String) : List Value → Traced (List Parameter)
  | [] => return []
  | raw :: rest => do
    let node ← setup.deref .parameter raw
    if node.isMap then
      match ← Parameter.classify setup.serverSide locationField node with
      | some p => return p :: (← classifyAll setup locationField rest)
      | none => classifyAll setup locationField rest
    else classifyAll setup locationField rest

def listMember (node : Entries) (name : String) : List Value :=
  ((node.member? name).bind Value.items?).getD []

/-! ## Headers and responses -/

def quotedTexts (values : List String) : String :=
  "'" ++ ", ".intercalate values ++ "'"

def quotedList (values : Value) : Except Failure String := do
  return quotedTexts (← displayedAll (← values.iterate))

def headerOf (name value : String) : Except Failure Header :=
  accept .header ((Value.str value).textProblems "value") ⟨name, value⟩

def isSuccess (status : Scalar) : Except Failure Bool := do
  let text ← status.displayed
  return text == "200" || text == "201"

/-- A response, unless its content type or description is no text. -/
def responseOf (status : Scalar) (contentType : Value) (type : String) (description : Value) :
    Except Failure Response :=
  accept .response
    (contentType.textProblems "content_type" ++ (Value.str type).textProblems "ts_type" ++
      description.optionalTextProblems "description")
    { status := status.display
      contentType := contentType.fieldText?.getD ""
      type := type
      description := description.fieldText? }

def responseType (schema : Value) : Except Failure String :=
  if schema.isNull then .ok "void" else TypeText.typeText schema

def placeOf (op : Operation) : Except Failure String := do
  return op.verb.word ++ " " ++ (← op.path.displayed)

def markLast : List Response → List Response
  | [] => []
  | [r] => [{ r with isLast := true }]
  | r :: s :: rest => r :: markLast (s :: rest)

/-! ## Methods -/

def travelsAt (location : Location) (parameters : List Parameter) : Bool :=
  parameters.any (·.location == location)

/-- How a key that is no text is listed: integers of 64 bits and booleans as numbers, anything else as
it is shown inside a mapping. -/
def listedKey : Scalar → Scalar
  | .bool b => .int (if b then 1 else 0)
  | .int i =>
    if Int64.minValue.toInt ≤ i && i ≤ Int64.maxValue.toInt then .int i
    else .str (Scalar.int i).plainName
  | key => .str key.shown

def docsKeyProblems (key : Scalar) : List Problem :=
  (Value.scalar key).textProblemsAt [.str "external_docs", listedKey key, .str "[key]"]

/-- What is wrong with the external documentation of an operation: it has to be a mapping with text
keys, or null. -/
def externalDocsProblems : Value → List Problem
  | .map docs => (Entries.keys docs).flatMap docsKeyProblems
  | .scalar .null => []
  | _ => [⟨[.str "external_docs"], .notMapping⟩]

def externalDocsOf (docs : Value) : Option Entries :=
  docs.entries?.map fun entries =>
    Entries.ofPairs (entries.map fun (key, v) =>
      (.str ((Value.scalar key).fieldText?.getD ""), v))

def tagsOf (node : Entries) : Except Failure (List String) := do
  let tags := node.member "tags"
  if tags.truthy then displayedAll (← tags.iterate) else return []

/-- The group that a method belongs to when methods are grouped: its first tag in small letters. -/
def destinationOf (multiple : Bool) (tags : List String) : Option String :=
  if multiple then
    match tags with
    | [] => some "default"
    | tag :: _ => some (Text.toLower tag)
  else none

/-- What an operation says about itself: the given summary, or else its description or summary. -/
def summaryOf (given : Value) (node : Entries) : Value :=
  if given.isNull then (node.member "description").orElse (node.member "summary") else given

/-- What a grammar reads off an operation. -/
structure Draft where
  name : String
  credentials : Credentials
  isSecure : Bool
  parameters : List Parameter
  headers : List Header
  responses : List Response
  summary : Value := .null

/-- What is wrong with the fields of a method, of which the path, the summary and the external
documentation are given as any values. -/
def methodProblems (m : Method) (path : Scalar) (summary externalDocs : Value) : List Problem :=
  (Value.str m.name).textProblems "method_name" ++
    (Value.scalar path).textProblems "path" ++
    summary.optionalTextProblems "summary" ++
    externalDocsProblems externalDocs ++
    listedTextProblems "tags" 0 (m.tags.map .str) ++
    (Value.optional m.destination).optionalTextProblems "destination"

/-- The method of an operation, under its base name. -/
def assemble (options : Options) (op : Operation) (draft : Draft) : Except Failure Method := do
  let tags ← tagsOf op.node
  let summary := summaryOf draft.summary op.node
  let externalDocs := op.node.member "externalDocs"
  -- A field of the wrong kind stands empty in the record, which its problems keep from being accepted.
  let m : Method :=
    { name := draft.name
      verb := op.verb
      path := (Value.scalar op.path).fieldText?.getD ""
      className := options.className
      summary := summary.fieldText?
      externalDocs := externalDocsOf externalDocs
      tags := tags
      isGet := op.verb == .get
      isPost := op.verb == .post
      isSecure := draft.isSecure
      credentials := draft.credentials
      parameters := draft.parameters
      headers := draft.headers
      responses := markLast draft.responses
      destination := destinationOf options.multiple tags
      hasBody := travelsAt .body draft.parameters
      isForm := travelsAt .form draft.parameters
      hasExtraHeader := travelsAt .header draft.parameters
      allOptional := allOptional draft.parameters }
  accept .method (methodProblems m op.path summary externalDocs) m

end Build
end ApiView
