import ApiView.Proofs.Build.Headers
import ApiView.Proofs.Translation.References

/-!
# Responses — the same shapes from a list and from content maps

A 2.0 build pairs each response with each content type of the operation, a 3.x build reads the content
types off the response itself.  Where the responses are given in place, both come to the same shapes:

* `toOption_contentShapes`: the shapes of one response;
* `toOption_responseMembers`: the shapes of a table of responses;
* `contentTypes_of_responseMembers`: the content types of the shapes, once for each success;
* `acceptHeader_of_responseMembers`: both builds ask for the same content types.
-/

namespace ApiView
namespace Translation

open Build

variable {types : List String} {table node : Entries} {setup setup' : Setup}

/-! ## Members of a translated response -/

theorem member?_withContent_same {name : String}
    (hsame : ∀ v, responseMember (.str name) v = some v) (hcontent : name ≠ "content") :
    (withContent types node).member? name = node.member? name := by
  rw [withContent, Entries.member?_append, member?_edit_same hsame,
    Entries.member?_cons_of_ne (by simpa using hcontent.symm)]
  exact Option.or_none

/-- A response has a content for each type that is produced. -/
theorem member?_content_withContent :
    (withContent types node).member? "content" =
      some (.map (types.map fun t => (.str t, .map (media node)))) := by
  rw [withContent, Entries.member?_append, member?_edit_dropped fun _ => rfl,
    Entries.member?_cons_self]
  rfl

theorem schema_media :
    ((Value.map (media node)).member? "schema").getD .null = node.member "schema" := by
  have hschema : (media node).member? "schema" = (node.member? "schema").map id :=
    member?_moved_self node "schema" "schema" id
  simp only [Value.member?, Value.entries?, Option.bind_some, hschema, Option.map_id]
  rfl

/-- A response that is given in place stays so. -/
theorem pointer?_withContent :
    Reference.pointer? (.map (withContent types node)) = Reference.pointer? (.map node) := by
  have hsame : (withContent types node).member? "$ref" = node.member? "$ref" :=
    member?_withContent_same (fun _ => rfl) (by decide)
  simp only [Reference.pointer?, Value.member?, Value.entries?, Option.bind_some, hsame]

theorem deref_of_inline {kind : Reference.Kind} {node : Value} :
    Reference.pointer? node = none → setup.deref kind node = .ok node := by
  intro hnode
  exact Reference.follow_of_inline hnode

/-! ## Shapes of one response -/

/-- The shapes of a translated response have the type of its schema. -/
theorem contentShapes_of_type {status : Scalar} {type : String} {description : Value} :
    responseType (node.member "schema") = .ok type →
      OpenApi3.contentShapes status description
          (types.map fun t => (.str t, .map (media node))) =
        (types.map Value.str).mapM fun contentType =>
          responseOf status contentType type description := by
  intro htype
  induction types with
  | nil =>
      rfl
  | cons t rest ih =>
      simp only [List.map_cons, OpenApi3.contentShapes, List.mapM_cons, schema_media, htype, ih]
      rfl

/-- The shapes of a response, one for each content type, or none in either build. -/
theorem toOption_contentShapes (status : Scalar) (hnonempty : types ≠ []) :
    (OpenApi3.contentShapes status (node.member "description")
        (types.map fun t => (.str t, .map (media node)))).toOption =
      (Swagger2.responseShapes status (types.map .str) node).toOption := by
  cases htype : responseType (node.member "schema") with
  | ok type =>
      rw [contentShapes_of_type htype, Swagger2.responseShapes, htype]
      rfl
  | error e =>
      -- Without a content type, the 3.x build would not look at the schema.
      cases types with
      | nil =>
          exact absurd rfl hnonempty
      | cons t rest =>
          simp only [List.map_cons, OpenApi3.contentShapes, schema_media, htype, Swagger2.responseShapes]
          rfl

/-! ## Tables of responses -/

/-- The shapes of a table of responses, the same ones in both builds, or none in either. -/
theorem toOption_responseMembers (hnonempty : types ≠ []) (hinline : Inline table) :
    (OpenApi3.responseMembers setup' (edit (fun _ v => some (response types v)) table)).toOption =
      (Swagger2.responseMembers setup (types.map .str) table).toOption := by
  induction table with
  | nil =>
      rfl
  | cons entry rest ih =>
      rcases entry with ⟨status, raw⟩
      rcases hinline (status, raw) (List.mem_cons_self ..) with ⟨node, rfl, hpointer⟩
      have ih := ih fun entry hmem => hinline entry (List.mem_cons_of_mem _ hmem)
      have hmoved : setup'.deref .response (.map (withContent types node)) =
          .ok (.map (withContent types node)) :=
        deref_of_inline (pointer?_withContent.trans hpointer)
      have hcontent : (Value.map (withContent types node)).member? "content" =
          some (.map (types.map fun t => (.str t, .map (media node)))) :=
        member?_content_withContent
      have hdescription : ((Value.map (withContent types node)).member? "description").getD .null =
          node.member "description" :=
        congrArg (fun v => Option.getD v Value.null)
          (member?_withContent_same (fun _ => rfl) (by decide))
      rw [edit_cons_kept, response]
      simp only [OpenApi3.responseMembers, Swagger2.responseMembers, toOption_bind]
      cases (isSuccess status).toOption with
      | none =>
          rfl
      | some success =>
          cases success with
          | false =>
              exact ih
          | true =>
              simp only [Option.bind_some, if_true, hmoved, deref_of_inline hpointer, ok_bind, hcontent,
                hdescription, toOption_bind, toOption_contentShapes status hnonempty, ih]

/-! ## Content types of the shapes -/

theorem truthy_of_nonempty (hnonempty : types ≠ []) :
    (Value.list (types.map .str)).truthy = true := by
  simpa [Value.truthy] using hnonempty

/-- Whether an entry of a table of responses is a success. -/
def succeeds (entry : Scalar × Value) : Bool :=
  (isSuccess entry.1).toOption == some true

theorem succeeds_iff (entry : Scalar × Value) :
    succeeds entry = true ↔ isSuccess entry.1 = .ok true := by
  unfold succeeds
  cases isSuccess entry.1 with
  | error e =>
      simp [Except.toOption]
  | ok success =>
      simp [Except.toOption]

/-- A response has the content type that it is read under. -/
theorem contentType_of_responseOf {status : Scalar} {t type : String} {description : Value}
    {r : Response} :
    responseOf status (.str t) type description = .ok r →
      r.contentType = t ∧ Text.isWhole t = true := by
  intro h
  rcases accept_eq_ok_iff.1 h with ⟨hproblems, rfl⟩
  have htext : (Value.str t).textProblems "content_type" = [] := by
    simp only [List.append_eq_nil_iff] at hproblems
    exact hproblems.1.1
  rcases Value.fieldText?_of_textProblems htext with ⟨text, hfield⟩
  by_cases hwhole : Text.isWhole t = true
  · refine ⟨?_, hwhole⟩
    simp [Value.fieldText?, Value.str, Value.fieldText, hwhole, Except.toOption]
  · simp [Value.fieldText?, Value.str, Value.fieldText, hwhole, Except.toOption] at hfield

/-- The content types of the shapes of a response, which are whole texts. -/
theorem contentTypes_of_responseShapes {status : Scalar} {shapes : List Response} :
    Swagger2.responseShapes status (types.map .str) node = .ok shapes →
      shapes.map (·.contentType) = types ∧ ∀ t ∈ types, Text.isWhole t = true := by
  intro h
  simp only [Swagger2.responseShapes, bind_eq_ok_iff] at h
  rcases h with ⟨type, _, hshapes⟩
  have hrows := mapM_eq_ok_iff.1 hshapes
  clear hshapes
  induction types generalizing shapes with
  | nil =>
      cases hrows
      simp
  | cons t rest ih =>
      rcases List.forall₂_cons_left_iff.1 hrows with ⟨r, rest', hr, hrest, rfl⟩
      rcases contentType_of_responseOf hr with ⟨htype, hwhole⟩
      rcases ih hrest with ⟨htypes, hwhole'⟩
      exact ⟨by simp [htype, htypes], List.forall_mem_cons.2 ⟨hwhole, hwhole'⟩⟩

/-- The content types of a table of responses, once for each success; they are whole texts if there is
any success. -/
theorem contentTypes_of_responseMembers (hinline : Inline table) {rs : List Response} :
    Swagger2.responseMembers setup (types.map .str) table = .ok rs →
      rs.map (·.contentType) =
          (List.replicate (table.countP succeeds) types).flatten ∧
        ((∃ entry ∈ table, succeeds entry = true) → ∀ t ∈ types, Text.isWhole t = true) := by
  intro h
  -- The induction is on the table of responses: each successful one adds all of the types once.
  induction table generalizing rs with
  | nil =>
      cases h
      simp
  | cons entry rest ih =>
      rcases entry with ⟨status, raw⟩
      rcases hinline (status, raw) (List.mem_cons_self ..) with ⟨node, rfl, hpointer⟩
      have ih := @ih fun entry hmem => hinline entry (List.mem_cons_of_mem _ hmem)
      simp only [Swagger2.responseMembers, bind_eq_ok_iff] at h
      rcases h with ⟨success, hsuccess, h⟩
      have hstatus : succeeds (status, .map node) = success := by
        rw [succeeds, hsuccess]
        cases success <;> rfl
      cases success with
      | false =>
          rcases ih h with ⟨htypes, hwhole⟩
          refine ⟨?_, ?_⟩
          · rw [htypes, List.countP_cons_of_neg (by simp [hstatus])]
          · rintro ⟨entry, hmem, hentry⟩
            rcases List.mem_cons.1 hmem with rfl | hmem
            · rw [hstatus] at hentry
              cases hentry
            · exact hwhole ⟨entry, hmem, hentry⟩
      | true =>
          -- A response without a pointer is read as it stands.
          simp only [if_true, deref_of_inline hpointer, ok_bind, bind_eq_ok_iff, pure_eq_ok_iff] at h
          rcases h with ⟨shapes, hshapes, rest', hrest, rfl⟩
          rcases contentTypes_of_responseShapes hshapes with ⟨hhead, hwhole⟩
          refine ⟨?_, fun _ => hwhole⟩
          rw [List.map_append, hhead, (ih hrest).1, List.countP_cons_of_pos hstatus,
            List.replicate_succ, List.flatten_cons]

/-- The header of the 3.x build, for the responses of the 2.0 build. -/
theorem acceptHeader_of_responseMembers (hnonempty : types ≠ []) (hnodup : types.Nodup)
    (hinline : Inline table) (hsuccess : ∃ entry ∈ table, succeeds entry = true)
    {rs : List Response} :
    Swagger2.responseMembers setup (types.map .str) table = .ok rs →
      Swagger2.acceptHeader (.list (types.map .str)) = .ok (OpenApi3.acceptHeader rs) := by
  intro h
  rcases contentTypes_of_responseMembers hinline h with ⟨htypes, hwhole⟩
  have hsome : 0 < table.countP succeeds := List.countP_pos_iff.2 hsuccess
  -- The first success shows each content type once, and the other ones show nothing new.
  have hfirst : OpenApi3.firstAppearances (rs.map (·.contentType)) = types := by
    rcases Nat.exists_eq_add_one.2 hsome with ⟨k, hk⟩
    rw [htypes, hk, List.replicate_succ, List.flatten_cons]
    refine OpenApi3.firstAppearances_append hnodup fun t ht => ?_
    rcases List.mem_flatten.1 ht with ⟨row, hrow, ht⟩
    rwa [← List.eq_of_mem_replicate hrow]
  have htruthy := truthy_of_nonempty hnonempty
  have hsomeType : types.isEmpty = false := by
    simpa using hnonempty
  simp only [Swagger2.acceptHeader, htruthy, if_true, quotedList_str, ok_bind,
    headerOf_quotedTexts (hwhole hsuccess), OpenApi3.acceptHeader, hfirst, hsomeType]
  rfl

end Translation
end ApiView
