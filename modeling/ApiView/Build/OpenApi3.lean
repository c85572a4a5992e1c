import ApiView.Build.Swagger2

/-!
# OpenAPI 3 documents

Content types stand beside the schemas of requests and responses. The body of a request becomes the
last parameter of its method.

* `OpenApi3.method`: the method of an operation;
* `OpenApi3.securityTable`, `OpenApi3.definitions`, `OpenApi3.domain`: the document.
-/

namespace ApiView
namespace Build
namespace OpenApi3

def components (document : Entries) : Entries :=
  ((document.member? "components").bind Value.entries?).getD []

def securityTable (document : Entries) : Value :=
  (components document).member "securitySchemes"

def definitions (document : Entries) : Entries :=
  (((components document).member? "schemas").bind Value.entries?).getD []

def domain (document : Entries) : Except Failure String := do
  match document.member "servers" with
  | .list (.map server :: _) =>
    let url ← ((Entries.member? server "url").getD (.str "")).displayed
    return Swagger2.withoutTrailingSlashes url
  | _ => return ""

/-! ## Responses -/

def contentShapes (status : Scalar) (description : Value) :
    List (Scalar × Value) → Except Failure (List Response)
  | [] => return []
  | (contentType, media) :: rest => do
    let type ← responseType ((media.member? "schema").getD .null)
    let shape ← responseOf status (.scalar contentType) type description
    return shape :: (← contentShapes status description rest)

/-- The shapes of the successful responses among the members of a table. -/
def responseMembers (setup : Setup) : List (Scalar × Value) → Except Failure (List Response)
  | [] => return []
  | (status, raw) :: rest => do
    if ← isSuccess status then
      let response ← setup.deref .response raw
      match response.member? "content" with
      | some (.map content) =>
        let shapes ← contentShapes status ((response.member? "description").getD .null) content
        return shapes ++ (← responseMembers setup rest)
      | _ => responseMembers setup rest
    else responseMembers setup rest

def responses (setup : Setup) (op : Operation) : Except Failure (List Response) :=
  match op.node.member "responses" with
  | .map table => responseMembers setup table
  | _ => return []

def firstAppearances (texts : List String) : List String :=
  (texts.foldl (fun seen t => if seen.contains t then seen else t :: seen) []).reverse

def acceptHeader (responses : List Response) : List Header :=
  let types := firstAppearances (responses.map (·.contentType))
  if types.isEmpty then [] else [⟨"Accept", quotedTexts types⟩]

/-! ## Requests -/

def contentTypeHeader : Option String → Except Failure (List Header)
  | none => return []
  | some "" => return []
  | some type => return [← headerOf "Content-Type" (quotedTexts [type])]

/-- The body of an operation as a row of at most one parameter, and the header that goes with it. -/
def body (setup : Setup) (op : Operation) : Traced (List Parameter × List Header) := do
  match ← setup.deref .requestBody (op.node.member "requestBody") with
  | .map body =>
    let (parameter, contentType) ← Body.parameter setup.options.requestBodyName op.node
      setup.options.strictContentType (← placeOf op) body
    return ([parameter], ← contentTypeHeader contentType)
  | _ => return ([], [])

/-- The method of an operation. -/
def method (setup : Setup) (op : Operation) : Traced Method := do
  let document := setup.document
  let credentials ← Security.requiredCredentials (securityTable document)
    (document.member "security") (op.node.member "security")
  let name ← baseName op (op.node.member "operationId")
  let parameters ← classifyAll setup "in" (listMember op.node "parameters" ++ op.shared)
  let responses ← responses setup op
  let (bodyParameters, bodyHeaders) ← body setup op
  assemble setup.options op
    { name := name
      credentials := credentials
      isSecure := document.hasMember "security" || op.node.hasMember "security"
      parameters := parameters ++ bodyParameters
      headers := acceptHeader responses ++ bodyHeaders
      responses := responses }

end OpenApi3
end Build
end ApiView
