import ApiView.Text.LetterCase
import ApiView.Trace
import ApiView.Value.Access
import ApiView.Value.Check
import ApiView.View.Model

/-!
# Security

A document declares security schemes in a table and requires them by name. The requirements of an
operation replace those of the document.

* `credentialOf?`: the family of credentials that a scheme asks for;
* `readSchemes`: the schemes of a table, those of an unknown type left out;
* `effectiveRequirements`: the requirements that apply to an operation;
* `requiredCredentials`: the families of credentials that they need.
-/

namespace ApiView
namespace Security

/-! ## Schemes -/

/-- The family of credentials that a scheme asks for. -/
def credentialOf? (scheme : Entries) : Except Failure (Option Credential) :=
  match (scheme.member "type").text? with
  | some "oauth2" => return some .token
  | some "openIdConnect" => return some .token
  | some "apiKey" => return some .apiKey
  | some "basic" => return some .basic
  | some "basicAuth" => return some .basic
  | some "http" => do
    let word := Text.toLower (← ((scheme.member? "scheme").getD (.str "")).displayed)
    return if word == "basic" then some .basic else if word == "bearer" then some .token else none
  | _ => return none

/-- A scheme of a known family. Legacy documents have words of their own for the name and place of
a key. -/
def readScheme (name : Scalar) (kind : Credential) (raw : Entries) : Except Failure Scheme :=
  let ofKey (v : Value) : Value := if kind == .apiKey then v else .null
  let parameterName := ofKey ((raw.member "name").orElse (raw.member "keyname"))
  let location := ofKey ((raw.member "in").orElse (raw.member "passAs"))
  let description := raw.member "description"
  accept .scheme
    ((Value.scalar name).textProblems "name" ++ description.optionalTextProblems "description" ++
      parameterName.optionalTextProblems "param_name" ++ location.optionalTextProblems "location")
    { name := (Value.scalar name).fieldText?.getD ""
      kind := kind
      description := description.fieldText?
      parameterName := parameterName.fieldText?
      location := location.fieldText? }

/-- The schemes among the members of a table. -/
def readMembers : List (Scalar × Value) → Traced (List Scheme)
  | [] => return []
  | (name, .map raw) :: rest => do
    match ← credentialOf? raw with
    | some kind =>
      let scheme ← readScheme name kind raw
      return scheme :: (← readMembers rest)
    | none =>
      Traced.note .debug .security
        ("Skipping security scheme '" ++ name.display ++ "' of type " ++
          (Entries.member raw "type").shown)
      readMembers rest
  | _ :: rest => readMembers rest

/-- The schemes of a table, in order; a table that is empty or missing has none. -/
def readSchemes (table : Value) : Traced (List Scheme) := do
  if table.truthy then readMembers (← table.table) else return []

/-! ## Requirements -/

/-- The requirements that apply to an operation: its own where it declares any, even none, and the
document's otherwise. -/
def effectiveRequirements (ofDocument ofOperation : Value) : Except Failure (List Value) :=
  if !ofOperation.isNull then ofOperation.iterate
  else if ofDocument.truthy then ofDocument.iterate
  else .ok []

def requiredNames (requirements : List Value) : List Scalar :=
  requirements.flatMap fun r => (r.entries?.getD []).keys

def credentialNamed? (table : Entries) (name : Scalar) : Except Failure (Option Credential) :=
  match (table.find? name).bind Value.entries? with
  | some scheme => credentialOf? scheme
  | none => return none

/-- The families of credentials that an operation needs, by the table of schemes. -/
def requiredCredentials (schemes ofDocument ofOperation : Value) : Except Failure Credentials := do
  -- Without schemes the requirements are not looked at, whatever they are.
  if !schemes.truthy then return {}
  let names := requiredNames (← effectiveRequirements ofDocument ofOperation)
  if names.isEmpty then return {}
  let table ← schemes.table
  let kinds ← names.mapM (credentialNamed? table)
  return ⟨kinds.contains (some .token), kinds.contains (some .apiKey), kinds.contains (some .basic)⟩

end Security
end ApiView
