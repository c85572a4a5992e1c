import ApiView.Build.Method
import ApiView.Security.Basic

/-!
# Legacy documents

Interfaces under `apis`, models under `models`, security schemes under `authorizations`. Operations
name the place of a parameter `paramType`, and declare no responses.

* `Legacy.method`: the method of an operation;
* `Legacy.securityTable`, `Legacy.definitions`, `Legacy.domain`, `Legacy.description`: the document.
-/

namespace ApiView
namespace Build
namespace Legacy

def securityTable (document : Entries) : Value :=
  document.member "authorizations"

def definitions (document : Entries) : Entries :=
  ((document.member? "models").bind Value.entries?).getD []

def domain (document : Entries) : Except Failure String :=
  ((document.member "basePath").orElse (.str "")).displayed

def requirements (authorizations : Value) : Value :=
  if authorizations.isMap then .list [authorizations] else .null

def headers (node : Entries) : Except Failure (List Header) := do
  let produces := node.member "produces"
  if produces.truthy then return [← headerOf "Accept" (← quotedList produces)] else return []

/-- The method of an operation. -/
def method (setup : Setup) (op : Operation) : Traced Method := do
  let authorizations := op.node.member "authorizations"
  let credentials ← Security.requiredCredentials (securityTable setup.document) .null
    (requirements authorizations)
  let headers ← headers op.node
  let name ← baseName op (op.node.member "nickname")
  let parameters ← classifyAll setup "paramType" (listMember op.node "parameters")
  assemble setup.options op
    { name := name
      credentials := credentials
      isSecure := authorizations.truthy
      parameters := parameters
      headers := headers
      responses := []
      summary := (op.node.member "summary").orElse (op.node.member "notes") }

end Legacy
end Build
end ApiView
