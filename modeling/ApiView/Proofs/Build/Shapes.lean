import ApiView.Build.View
import ApiView.Proofs.Outcomes

/-!
# Shapes — the responses of a method

Both grammars go through a table of responses and read the ones of success, each in its own way.  This
file says what they have in common, and what becomes of the last response:

* `successRow`: the shapes of one member of a table;
* `Swagger2.responseMembers_eq`, `OpenApi3.responseMembers_eq`: a table is read member by member;
* `Unmarked`, `Swagger2.unmarked_of_responses`, `OpenApi3.unmarked_of_responses`: responses are built
  unmarked;
* `isLast_markLast_iff`: then the last one is marked, and no other.
-/

namespace ApiView
namespace Build

variable {setup : Setup} {op : Operation} {table : Entries}

/-! ## Tables of responses -/

/-- The shapes of a member of a table: those of the node that it leads to, under a status of success. -/
def successRow (setup : Setup) (shapes : Scalar → Value → Except Failure (List Response)) :
    Scalar × Value → Except Failure (List Response)
  | (status, raw) => do
    if ← isSuccess status then shapes status (← setup.deref .response raw) else return []

/-- Rows of shapes, one after the other. -/
def successRows (setup : Setup) (shapes : Scalar → Value → Except Failure (List Response))
    (table : Entries) : Except Failure (List Response) := do
  return (← table.mapM (successRow setup shapes)).flatten

/-- A walk through a table that reads each member as a row reads the table row by row. -/
theorem eq_successRows {shapes : Scalar → Value → Except Failure (List Response)}
    {walk : Entries → Except Failure (List Response)} (hnil : walk [] = .ok [])
    (hcons : ∀ entry rest, walk (entry :: rest) = successRow setup shapes entry >>= fun row =>
      walk rest >>= fun rows => .ok (row ++ rows)) :
    walk table = successRows setup shapes table := by
  induction table with
  | nil =>
      exact hnil
  | cons entry rest ih =>
      rw [hcons, ih]
      simp only [successRows, List.mapM_cons, bind_assoc, pure_bind, List.flatten_cons]
      rfl

namespace Swagger2

/-- The shapes of a node, one per content type; a node that is no mapping has none. -/
def nodeShapes (types : List Value) (status : Scalar) : Value → Except Failure (List Response)
  | .map response => responseShapes status types response
  | _ => .ok []

/-- Responses are read off the successful members of their table. -/
theorem responseMembers_eq (types : List Value) :
    responseMembers setup types table = successRows setup (nodeShapes types) table := by
  refine eq_successRows rfl fun entry rest => ?_
  obtain ⟨status, raw⟩ := entry
  simp only [responseMembers, successRow, bind_assoc]
  refine congrArg _ (funext fun success => ?_)
  -- What is passed over has an empty row.
  cases success with
  | false =>
      cases responseMembers setup types rest <;> rfl
  | true =>
      simp only [if_true, bind_assoc]
      refine congrArg _ (funext fun node => ?_)
      cases node with
      | map response =>
          rfl
      | _ =>
          cases responseMembers setup types rest <;> rfl

end Swagger2

namespace OpenApi3

/-- The shapes of a node, one per member of its content map. -/
def nodeShapes (status : Scalar) (response : Value) : Except Failure (List Response) :=
  match response.member? "content" with
  | some (.map content) =>
    contentShapes status ((response.member? "description").getD .null) content
  | _ => .ok []

theorem responseMembers_eq :
    responseMembers setup table = successRows setup nodeShapes table := by
  refine eq_successRows rfl fun entry rest => ?_
  obtain ⟨status, raw⟩ := entry
  simp only [responseMembers, successRow, bind_assoc]
  refine congrArg _ (funext fun success => ?_)
  cases success with
  | false =>
      cases responseMembers setup rest <;> rfl
  | true =>
      simp only [if_true, bind_assoc]
      refine congrArg _ (funext fun node => ?_)
      unfold nodeShapes
      generalize node.member? "content" = content
      rcases content with _ | ⟨_ | _ | _ | _⟩
      all_goals
        cases responseMembers setup rest <;> rfl

end OpenApi3

/-! ## Unmarked responses -/

/-- None of the responses is marked as the last one. -/
def Unmarked (responses : List Response) : Prop :=
  ∀ r ∈ responses, r.isLast = false

/-- Responses are unmarked if every shape of one is. -/
theorem unmarked_of_successRows {shapes : Scalar → Value → Except Failure (List Response)}
    (hshapes : ∀ status node row, shapes status node = .ok row → Unmarked row)
    {responses : List Response} :
    successRows setup shapes table = .ok responses → Unmarked responses := by
  intro h
  simp only [successRows, bind_eq_ok_iff, pure_eq_ok_iff] at h
  obtain ⟨rows, hrows, rfl⟩ := h
  intro r hr
  obtain ⟨row, hrow, hr⟩ := List.mem_flatten.1 hr
  obtain ⟨⟨status, raw⟩, _, hread⟩ := (mem_of_mapM_iff hrows).1 hrow
  simp only [successRow, bind_eq_ok_iff] at hread
  obtain ⟨success, _, hread⟩ := hread
  cases success with
  | false =>
      cases hread
      cases hr
  | true =>
      simp only [if_true, bind_eq_ok_iff] at hread
      obtain ⟨node, _, hread⟩ := hread
      exact hshapes status node row hread r hr

theorem isLast_of_responseOf {status : Scalar} {contentType description : Value} {type : String}
    {r : Response} : responseOf status contentType type description = .ok r → r.isLast = false := by
  intro h
  obtain ⟨_, rfl⟩ := accept_eq_ok_iff.1 h
  rfl

theorem Swagger2.unmarked_of_responses {produces : Value} {responses : List Response} :
    Swagger2.responses setup op produces = .ok responses → Unmarked responses := by
  intro h
  unfold Swagger2.responses at h
  split at h
  · simp only [bind_eq_ok_iff, Swagger2.responseMembers_eq] at h
    obtain ⟨types, _, h⟩ := h
    refine unmarked_of_successRows (fun status node row hrow => ?_) h
    cases node with
    | map response =>
        simp only [nodeShapes, responseShapes, bind_eq_ok_iff] at hrow
        obtain ⟨type, _, hrow⟩ := hrow
        intro r hr
        obtain ⟨contentType, _, hr⟩ := (mem_of_mapM_iff hrow).1 hr
        exact isLast_of_responseOf hr
    | _ =>
        cases hrow
        exact List.forall_mem_nil _
  · cases h
    exact List.forall_mem_nil _

theorem OpenApi3.unmarked_of_contentShapes {status : Scalar} {description : Value}
    {content : List (Scalar × Value)} {responses : List Response} :
    OpenApi3.contentShapes status description content = .ok responses → Unmarked responses := by
  intro h
  induction content generalizing responses with
  | nil =>
      cases h
      exact List.forall_mem_nil _
  | cons entry rest ih =>
      simp only [contentShapes, bind_eq_ok_iff, pure_eq_ok_iff] at h
      obtain ⟨type, _, shape, hshape, shapes, hshapes, rfl⟩ := h
      exact List.forall_mem_cons.2 ⟨isLast_of_responseOf hshape, ih hshapes⟩

theorem OpenApi3.unmarked_of_responses {responses : List Response} :
    OpenApi3.responses setup op = .ok responses → Unmarked responses := by
  intro h
  unfold OpenApi3.responses at h
  split at h
  · rw [OpenApi3.responseMembers_eq] at h
    refine unmarked_of_successRows (fun status node row hrow => ?_) h
    unfold nodeShapes at hrow
    split at hrow
    · exact unmarked_of_contentShapes hrow
    · cases hrow
      exact List.forall_mem_nil _
  · cases h
    exact List.forall_mem_nil _

/-! ## The last response -/

theorem length_markLast (responses : List Response) :
    (markLast responses).length = responses.length := by
  induction responses with
  | nil =>
      rfl
  | cons r rest ih =>
      cases rest with
      | nil => rfl
      | cons s rest => simpa [markLast] using ih

/-- Of unmarked responses the last one is marked, and no other. -/
theorem isLast_markLast_iff {responses : List Response} (h : Unmarked responses) {i : Nat}
    (hi : i < (markLast responses).length) :
    (markLast responses)[i].isLast = true ↔ i + 1 = (markLast responses).length := by
  rw [length_markLast]
  -- The mark is handed down the row until one response is left.
  induction responses generalizing i with
  | nil =>
      cases hi
  | cons r rest ih =>
      cases rest with
      | nil =>
          have hzero : i = 0 := by
            simpa [markLast] using hi
          subst hzero
          simp [markLast]
      | cons s rest =>
          obtain ⟨hhead, htail⟩ := List.forall_mem_cons.1 h
          cases i with
          | zero =>
              simp [markLast, hhead]
          | succ i =>
              simpa [markLast] using ih htail (by simpa [markLast] using hi)

end Build
end ApiView
