import ApiView.Proofs.Build.Outline
import ApiView.Proofs.Operation.Change

/-!
# Pruned — a document without its broken references

An operation refers to shared nodes at three places: its parameters, the body of its request, and its
responses of success.  This file names the nodes at these places, and takes out of a document those whose
references lead nowhere:

* `references`: the nodes of an operation that may refer to shared ones;
* `resolves`: whether the references of a node lead to a node;
* `pruning`, `pruned`: operations and documents without the nodes whose references lead nowhere;
* `member?_prunedNode`: what an operation says elsewhere stays;
* `references_pruned`: the operations of the pruned document have the other nodes and no more.
-/

namespace ApiView
namespace Build

open Translation (edit member?_edit_kept member?_edit_same member?_edit_dropped)

variable {grammar : Grammar} {d node : Entries}

/-! ## References of an operation -/

/-- The body of the request of an operation, if there is one. -/
def bodyNodes : Grammar → Entries → List Value
  | .legacy, _ | .swagger2, _ => []
  | .openApi3, node => (node.member? "requestBody").toList

/-- Whether a status is one of success.  A status that cannot be shown is none. -/
def succeeds (status : Scalar) : Bool :=
  (isSuccess status).toOption.getD false

/-- The responses of success of an operation. -/
def successNodes : Grammar → Entries → List Value
  | .legacy, _ => []
  | .swagger2, node | .openApi3, node =>
    (((node.member "responses").entries?.getD []).filter fun entry => succeeds entry.1).map (·.2)

/-- The nodes of an operation that may refer to shared ones, with the kinds of their references. -/
def references (grammar : Grammar) (op : Operation) : List (Reference.Kind × Value) :=
  (parameterNodes grammar op).map (.parameter, ·) ++
    (bodyNodes grammar op.node).map (.requestBody, ·) ++
    (successNodes grammar op.node).map (.response, ·)

/-- Whether the references of a node lead to a node. -/
def resolves (d : Entries) (kind : Reference.Kind) (node : Value) : Bool :=
  (Reference.deref (.map d) kind node).isOk

/-! ## Pruned operations -/

/-- A list of parameters without those whose references lead nowhere. -/
def keptParameters (d : Entries) : Value → Value
  | .list nodes => .list (nodes.filter (resolves d .parameter))
  | v => v

/-- Whether a member of a table of responses stays. -/
def keepsResponse (d : Entries) (entry : Scalar × Value) : Bool :=
  !succeeds entry.1 || resolves d .response entry.2

/-- A table of responses without those of success whose references lead nowhere. -/
def keptResponses (d : Entries) : Value → Value
  | .map table => .map (table.filter (keepsResponse d))
  | v => v

/-- Whether an operation keeps the body of its request. -/
def keepsBody (grammar : Grammar) (d node : Entries) : Bool :=
  (bodyNodes grammar node).all (resolves d .requestBody)

/-- What becomes of a member of an operation that keeps the body of its request or does not. -/
def prunedMember (grammar : Grammar) (d : Entries) (body : Bool) : Scalar → Value → Option Value
  | .str "parameters", v => some (keptParameters d v)
  | .str "requestBody", v => if body then some v else none
  | .str "responses", v => some (if grammar == .legacy then v else keptResponses d v)
  | _, v => some v

/-- The node of an operation without the entries whose references lead nowhere. -/
def prunedNode (grammar : Grammar) (d node : Entries) : Entries :=
  edit (prunedMember grammar d (keepsBody grammar d node)) node

/-- What an operation says at other places stays. -/
theorem member?_prunedNode {name : String} (hparameters : name ≠ "parameters")
    (hbody : name ≠ "requestBody") (hresponses : name ≠ "responses") :
    (prunedNode grammar d node).member? name = node.member? name := by
  refine member?_edit_same (fun v => ?_) node
  unfold prunedMember
  split
  · rename_i heq
    cases heq
    exact absurd rfl hparameters
  · rename_i heq
    cases heq
    exact absurd rfl hbody
  · rename_i heq
    cases heq
    exact absurd rfl hresponses
  · rfl

/-- The entries of operations whose references lead nowhere are taken out. -/
def pruning (grammar : Grammar) (d : Entries) : Change where
  node := prunedNode grammar d
  shared := List.filter (resolves d .parameter)
  method_node := fun _ => member?_prunedNode (by decide) (by decide) (by decide)
  shared_nil := rfl

/-- A document without the entries of its operations whose references lead nowhere. -/
def pruned (grammar : Grammar) (d : Entries) : Entries :=
  (pruning grammar d).document grammar d

/-- Pruning changes nothing outside the listing of operations. -/
theorem alike_pruned (grammar : Grammar) (d : Entries) : Alike grammar d (pruned grammar d) :=
  (pruning grammar d).alike_document grammar d

/-- The walk of a pruned document visits the pruned operations. -/
theorem steps_pruned (grammar : Grammar) (d : Entries) :
    steps grammar (pruned grammar d) = (steps grammar d).map (pruning grammar d).step :=
  (pruning grammar d).steps_document grammar d

/-! ## What is left -/

theorem listMember_prunedNode :
    listMember (prunedNode grammar d node) "parameters" =
      (listMember node "parameters").filter (resolves d .parameter) := by
  have hmember : (prunedNode grammar d node).member? "parameters" =
      (node.member? "parameters").map (keptParameters d) :=
    member?_edit_kept (fun _ => rfl) node
  rw [listMember, hmember, listMember]
  cases node.member? "parameters" with
  | none =>
      rfl
  | some v =>
      cases v <;> rfl

/-- The parameters of a pruned operation are those that resolve. -/
theorem parameterNodes_pruned (op : Operation) :
    parameterNodes grammar ((pruning grammar d).operation op) =
      (parameterNodes grammar op).filter (resolves d .parameter) := by
  cases grammar with
  | legacy =>
      exact listMember_prunedNode
  | swagger2 =>
      exact (congrArg (· ++ _) listMember_prunedNode).trans (List.filter_append ..).symm
  | openApi3 =>
      exact (congrArg (· ++ _) listMember_prunedNode).trans (List.filter_append ..).symm

theorem member?_requestBody_of_keepsBody (h : keepsBody grammar d node = true) :
    (prunedNode grammar d node).member? "requestBody" = node.member? "requestBody" :=
  member?_edit_same (fun _ => by rw [h]; rfl) node

theorem bodyNodes_pruned :
    bodyNodes grammar (prunedNode grammar d node) =
      (bodyNodes grammar node).filter (resolves d .requestBody) := by
  cases grammar with
  | legacy =>
      rfl
  | swagger2 =>
      rfl
  | openApi3 =>
      -- The body stays or goes as a whole, so it is enough to know whether it is kept.
      by_cases hkept : keepsBody .openApi3 d node = true
      · have hall := List.all_eq_true.1 hkept
        rw [List.filter_eq_self.2 hall, bodyNodes, member?_requestBody_of_keepsBody hkept, bodyNodes]
      · have hdropped : (prunedNode .openApi3 d node).member? "requestBody" = none :=
          member?_edit_dropped (fun _ => by rw [Bool.not_eq_true] at hkept; rw [hkept]; rfl) node
        rw [bodyNodes, hdropped]
        cases hbody : node.member? "requestBody" with
        | none =>
            simp [bodyNodes, hbody]
        | some v =>
            have hv : resolves d .requestBody v = false := by
              simpa [keepsBody, bodyNodes, hbody] using hkept
            simp [bodyNodes, hbody, hv]

theorem member_responses_prunedNode (hgrammar : grammar ≠ .legacy) :
    (prunedNode grammar d node).member "responses" = keptResponses d (node.member "responses") := by
  have hrule : ∀ v, prunedMember grammar d (keepsBody grammar d node) (.str "responses") v =
      some (keptResponses d v) := by
    intro v
    simp [prunedMember, hgrammar]
  have hmember : (prunedNode grammar d node).member? "responses" =
      (node.member? "responses").map (keptResponses d) :=
    member?_edit_kept hrule node
  rw [Entries.member, hmember, Entries.member]
  cases node.member? "responses" <;> rfl

theorem successNodes_pruned :
    successNodes grammar (prunedNode grammar d node) =
      (successNodes grammar node).filter (resolves d .response) := by
  -- What is left out is successful and does not resolve, so the successful rest is what resolves.
  have hkept : ∀ v : Value,
      (((keptResponses d v).entries?.getD []).filter fun entry => succeeds entry.1).map (·.2) =
        (((v.entries?.getD []).filter fun entry => succeeds entry.1).map (·.2)).filter
          (resolves d .response) := by
    intro v
    cases v with
    | map table =>
        simp only [keptResponses, Value.entries?, Option.getD_some, List.filter_map,
          List.filter_filter]
        refine congrArg _ (List.filter_congr fun entry _ => ?_)
        cases hsuccess : succeeds entry.1 <;> simp [keepsResponse, hsuccess]
    | _ =>
        rfl
  cases grammar with
  | legacy =>
      rfl
  | swagger2 =>
      rw [successNodes, member_responses_prunedNode (by decide), hkept, successNodes]
  | openApi3 =>
      rw [successNodes, member_responses_prunedNode (by decide), hkept, successNodes]

/-- A pruned operation has those references of the other one that lead to a node. -/
theorem references_pruning (op : Operation) :
    references grammar ((pruning grammar d).operation op) =
      (references grammar op).filter fun use => resolves d use.1 use.2 := by
  have hbody : bodyNodes grammar ((pruning grammar d).operation op).node =
      (bodyNodes grammar op.node).filter (resolves d .requestBody) := bodyNodes_pruned
  have hsuccess : successNodes grammar ((pruning grammar d).operation op).node =
      (successNodes grammar op.node).filter (resolves d .response) := successNodes_pruned
  simp only [references, parameterNodes_pruned, hbody, hsuccess, List.filter_append, List.filter_map]
  rfl

/-- Operation by operation, a pruned document has those references that lead to a node. -/
theorem references_pruned (grammar : Grammar) (d : Entries) :
    (retained grammar (pruned grammar d)).map (references grammar) =
      (retained grammar d).map fun op =>
        (references grammar op).filter fun use => resolves d use.1 use.2 := by
  rw [pruned, Change.retained_document, List.map_map]
  exact List.map_congr_left fun op _ => references_pruning op

end Build
end ApiView
