import ApiView.Parameter.Classify

/-!
# Request bodies

A request is sent with one content type, and the body of a request is shown to templates as one more
parameter.

* `chooseContentType`: the content type of a request, the first one declared;
* `Body.parameter`: the parameter that stands for a request body.
-/

namespace ApiView

/-! ## Content types -/

def contentTypeTexts (declared : Value) : Except Failure (List String) := do
  displayedAll (← declared.iterate)

/-- The first of the declared content types. Several are an error where strictness is asked for, and
a warning elsewhere. -/
def chooseContentType (strict : Bool) (place : String) (declared : Value) :
    Traced (Option String) := do
  match ← contentTypeTexts declared with
  | [] => return none
  | [only] => return some only
  | first :: second :: rest =>
    let types := first :: second :: rest
    if strict then Traced.fail (.ambiguous place types)
    else do
      Traced.note .warning .parameters
        (place ++ " declares " ++ toString types.length ++ " content types, using '" ++ first ++ "'")
      return some first

def formContentTypes : List String :=
  ["application/x-www-form-urlencoded", "multipart/form-data"]

/-! ## The body parameter -/

namespace Body

def nameExtension : String := "x-codegen-request-body-name"

def content (body : Entries) : Entries :=
  ((body.member? "content").bind Value.entries?).getD []

/-- The name of a body parameter: the given one, else the one that the operation or the body
declares, else `body`. -/
def nameValue (override : Option String) (operation : Entries) (body : Entries) : Value :=
  (Value.optional override).orElse <|
    (operation.member nameExtension).orElse <|
      (body.member nameExtension).orElse (.str "body")

def schema (body : Entries) (contentType : Option String) : Value :=
  match contentType with
  | none => .null
  | some "" => .null
  | some type => (((content body).member? type).bind (·.member? "schema")).getD .null

/-- The parameter that stands for a request body, and the content type that it is sent with. -/
def parameter (override : Option String) (operation : Entries) (strict : Bool) (place : String)
    (body : Entries) : Traced (Parameter × Option String) := do
  let contentType ← chooseContentType strict place (.map (content body))
  let name ← (nameValue override operation body).text
  let location := if contentType.any formContentTypes.contains then Location.form else .body
  let required := (body.member "required").isTrue
  let description := body.member "description"
  let type ← TypeText.typeText (schema body contentType)
  let p : Parameter :=
    { name := name
      camelCaseName := Naming.camelCase name
      location := location
      description := description.fieldText?
      required := required
      isBody := location == .body
      isForm := location == .form
      type := type
      cardinality := if required then "" else "?" }
  return (← accept .parameter (p.problems description .null) p, contentType)

end Body
end ApiView
