import ApiView.Text.LetterCase
import ApiView.Trace
import ApiView.Value.Access
import ApiView.View.Model

/-!
# The operations of a document

A document is walked once, in order. What is found on the way is a row of steps: an operation to keep,
something skipped that the log mentions, or a list that cannot be walked.

* `Operation`, `Step`: what is found;
* `walkPaths`: the walk of a table of paths;
* `walkApis`: the walk of a list of legacy interfaces;
* `operationsOf`: the operations among the steps.
-/

namespace ApiView

/-- A verb on a path with its node, and the parameters that its path shares. -/
structure Operation where
  path : Scalar
  verb : Verb
  node : Entries
  shared : List Value
deriving DecidableEq, Repr

/-- What is found on a walk. -/
inductive Step
  | visit (operation : Operation)
  | skip (line : LogLine)
  | broken (failure : Failure)
deriving DecidableEq, Repr

def operationsOf : List Step → Except Failure (List Operation)
  | [] => return []
  | .visit operation :: rest => return operation :: (← operationsOf rest)
  | .skip _ :: rest => operationsOf rest
  | .broken e :: _ => throw e

/-! ## Tables of paths -/

def verbOf? (key : Scalar) : Except Failure (Option Verb) := do
  return Verb.ofWord? (Text.toUpper (← key.displayed))

/-- What a member of a path item is. A key that is no verb is mentioned, a verb without a node is
not. -/
def stepsOf (path : Scalar) (shared : List Value) (key : Scalar) (v : Value) : List Step :=
  match verbOf? key with
  | .ok (some verb) =>
    match v with
    | .map node => [.visit ⟨path, verb, node, shared⟩]
    | _ => []
  | .ok none =>
    if key.same (.str "parameters") then []
    else [.skip ⟨.debug, .operations, "Skipping '" ++ key.display ++ "' under " ++ path.display⟩]
  | .error e => [.broken e]

def walkItem (path : Scalar) (shared : List Value) (item : List (Scalar × Value)) : List Step :=
  item.flatMap fun (key, v) => stepsOf path shared key v

def sharedParameters (item : Entries) : List Value :=
  ((item.member? "parameters").bind Value.items?).getD []

/-- The members of a table of paths; entries that are no path items are left out. -/
def walkTable : List (Scalar × Value) → List Step
  | [] => []
  | (path, .map item) :: rest => walkItem path (sharedParameters item) item ++ walkTable rest
  | _ :: rest => walkTable rest

def walkPaths (paths : Value) : List Step :=
  walkTable (paths.entries?.getD [])

/-! ## Legacy interfaces -/

/-- What an operation of a legacy interface is. The verb `OPTIONS` is left out here. -/
def legacyStepsOf (path : String) : Value → List Step
  | .map node =>
    match ((Entries.member? node "method").getD (.str "")).displayed with
    | .error e => [.broken e]
    | .ok method =>
      let word := Text.toUpper method
      match Verb.ofWord? word with
      | some .options | none =>
        [.skip ⟨.debug, .legacyOperations,
          "Skipping " ++ Text.quote word ++ " operation under " ++ path⟩]
      | some verb => [.visit ⟨.str path, verb, node, []⟩]
  | _ => []

def legacyOperations (api : Entries) : Except Failure (String × List Value) := do
  let path ← ((api.member? "path").getD (.str "")).displayed
  let operations := api.member "operations"
  if operations.truthy then return (path, ← operations.iterate) else return (path, [])

def walkApi (api : Entries) : List Step :=
  match legacyOperations api with
  | .ok (path, operations) => operations.flatMap (legacyStepsOf path)
  | .error e => [.broken e]

def walkApis (apis : Value) : List Step :=
  (apis.items?.getD []).flatMap fun api =>
    match api with
    | .map entries => walkApi entries
    | _ => []

end ApiView
