import ApiView.Yaml.Composition

/-!
# YAML documents as values

* `read`: the value of a whole text.
-/

namespace ApiView
namespace Yaml

/-- The value of a whole text, null where it holds no document. -/
def read (text : List Char) : Except Fault Value := do
  let (tokens, ending) := Token.scan text
  match ← Node.ofTokens tokens ending with
  | some node => node.part.outcome.result
  | none => return .null

end Yaml
end ApiView
