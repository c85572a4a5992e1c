import ApiView.Build.Method
import ApiView.Parameter.Body
import ApiView.Security.Basic

/-!
# Swagger 2.0 documents

What an operation produces and consumes stands in lists, which the document may give for all
operations. Every successful response has one shape per content type produced.

* `Swagger2.method`: the method of an operation;
* `Swagger2.securityTable`, `Swagger2.definitions`, `Swagger2.domain`: the document.
-/

namespace ApiView
namespace Build
namespace Swagger2

def securityTable (document : Entries) : Value :=
  document.member "securityDefinitions"

def definitions (document : Entries) : Entries :=
  ((document.member? "definitions").bind Value.entries?).getD []

/-! ## The address of the service -/

/-- The first item of a value that has items. -/
def firstItem : Value → Except Failure Value
  | .list (v :: _) => .ok v
  | .list [] => .error (.defect .outOfBounds)
  | .map entries =>
    match Entries.find? (.int 0) entries with
    | some v => .ok v
    | none => .error (.defect .absentMember)
  | .scalar (.str s) =>
    match Text.letters s.toList with
    | c :: _ => .ok (.str (String.ofList c))
    | [] => .error (.defect .outOfBounds)
  | .scalar (.bytes b) =>
    match b with
    | n :: _ => .ok (.int n.toNat)
    | [] => .error (.defect .outOfBounds)
  | _ => .error (.defect .notIndexable)

def withoutTrailingSlashes (path : String) : String :=
  String.ofList (path.toList.reverse.dropWhile (· == '/')).reverse

def basePathText : Value → Except Failure String
  | .scalar (.str path) => .ok (withoutTrailingSlashes path)
  | .scalar (.bytes _) => .error (.defect .notText)
  | _ => .error (.defect .notAPath)

/-- The address of the service, where scheme, host and base path are all given. -/
def domain (document : Entries) : Except Failure String := do
  let schemes := document.member "schemes"
  let host := document.member "host"
  let basePath := document.member "basePath"
  if schemes.truthy && host.truthy && basePath.truthy then
    let scheme ← (← firstItem schemes).displayed
    let host ← host.displayed
    return scheme ++ "://" ++ host ++ (← basePathText basePath)
  else return ""

/-! ## Methods -/

def acceptHeader (produces : Value) : Except Failure (List Header) := do
  if produces.truthy then return [← headerOf "Accept" (← quotedList produces)] else return []

def contentTypeHeader (strict : Bool) (op : Operation) (consumes : Value) :
    Traced (List Header) := do
  if consumes.truthy then
    let place ← placeOf op
    match ← chooseContentType strict place consumes with
    | some type => return [← headerOf "Content-Type" (quotedTexts [type])]
    | none => return []
  else return []

def headers (strict : Bool) (op : Operation) (produces consumes : Value) : Traced (List Header) := do
  let accept ← acceptHeader produces
  return accept ++ (← contentTypeHeader strict op consumes)

def responseShapes (status : Scalar) (contentTypes : List Value) (response : Entries) :
    Except Failure (List Response) := do
  let type ← responseType (response.member "schema")
  contentTypes.mapM fun contentType =>
    responseOf status contentType type (response.member "description")

/-- The shapes of the successful responses among the members of a table. -/
def responseMembers (setup : Setup) (contentTypes : List Value) :
    List (Scalar × Value) → Except Failure (List Response)
  | [] => return []
  | (status, raw) :: rest => do
    if ← isSuccess status then
      match ← setup.deref .response raw with
      | .map response =>
        let shapes ← responseShapes status contentTypes response
        return shapes ++ (← responseMembers setup contentTypes rest)
      | _ => responseMembers setup contentTypes rest
    else responseMembers setup contentTypes rest

/-- The content types that responses come in; JSON where none are given. -/
def responseTypes (produces : Value) : Except Failure (List Value) :=
  (produces.orElse (.list [.str "application/json"])).iterate

def responses (setup : Setup) (op : Operation) (produces : Value) :
    Except Failure (List Response) := do
  match op.node.member "responses" with
  | .map table => responseMembers setup (← responseTypes produces) table
  | _ => return []

/-- The method of an operation. -/
def method (setup : Setup) (op : Operation) : Traced Method := do
  let document := setup.document
  let credentials ← Security.requiredCredentials (securityTable document)
    (document.member "security") (op.node.member "security")
  let name ← baseName op (op.node.member "operationId")
  let produces := (op.node.member "produces").orElse (document.member "produces")
  let consumes := (op.node.member "consumes").orElse (document.member "consumes")
  let headers ← headers setup.options.strictContentType op produces consumes
  let parameters ← classifyAll setup "in" (listMember op.node "parameters" ++ op.shared)
  let responses ← responses setup op produces
  assemble setup.options op
    { name := name
      credentials := credentials
      isSecure := document.hasMember "security" || op.node.hasMember "security"
      parameters := parameters
      headers := headers
      responses := responses }

end Swagger2
end Build
end ApiView
