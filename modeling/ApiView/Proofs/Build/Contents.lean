import Mathlib.Data.List.ProdSigma
import ApiView.Proofs.Build.Derived
import ApiView.Proofs.Build.Headers
import ApiView.Proofs.Build.Pruned

/-!
# Contents — headers, responses and bodies in step

What a method sends and gets is told at several places: a header lists the content types of the responses,
another one names that of the request, and the body of a request is a parameter.  Each place is filled by a
function of its own.  This file says what they have in common:

* `firstAppearances_eq_eraseDups`: the content types of the responses, each where it appears first;
* `SentAs`, `body_cases`: the content type of a request, with the header and the parameter it is sent by;
* `OpenApi3.InStep`, `OpenApi3.inStep_of_method`: the contents of a 3.x method;
* `successes`, `Describes`, `describes_of_responseMembers`: the responses of success and their shapes;
* `Swagger2.InStep`, `Swagger2.inStep_of_method`: the contents of a 2.0 method;
* `contents_in_step`: every method of a view.
-/

namespace ApiView
namespace Build

variable {grammar : Grammar} {setup : Setup} {op : Operation} {m : Method} {draft : Draft}

/-! ## Methods and drafts -/

/-- What a method keeps of its draft: parameters and headers as they are, and responses up to the mark. -/
structure Filled (draft : Draft) (m : Method) : Prop where
  parameters : m.parameters = draft.parameters
  headers : m.headers = draft.headers
  responses : m.responses = markLast draft.responses

/-- A method is filled with what its draft says about contents. -/
theorem filled_of_assemble {options : Options} :
    assemble options op draft = .ok m → Filled draft m := by
  intro h
  simp only [assemble, bind_eq_ok_iff, accept_eq_ok_iff] at h
  obtain ⟨_, _, _, rfl⟩ := h
  exact ⟨rfl, rfl, rfl⟩

/-- The mark changes nothing else about a response. -/
theorem markLast_forall₂ (responses : List Response) :
    List.Forall₂ (fun r marked => marked = { r with isLast := marked.isLast }) responses
      (markLast responses) := by
  induction responses with
  | nil =>
      exact List.Forall₂.nil
  | cons r rest ih =>
      cases rest with
      | nil =>
          exact List.Forall₂.cons rfl List.Forall₂.nil
      | cons s rest =>
          exact List.Forall₂.cons rfl ih

theorem markLast_eq_nil_iff {responses : List Response} : markLast responses = [] ↔ responses = [] := by
  rw [← List.length_eq_zero_iff, length_markLast, List.length_eq_zero_iff]

theorem map_contentType_markLast (responses : List Response) :
    (markLast responses).map (·.contentType) = responses.map (·.contentType) := by
  have hrows : List.Forall₂ (fun r marked : Response => marked.contentType = r.contentType) responses
      (markLast responses) := by
    refine (markLast_forall₂ responses).imp ?_
    rintro r marked hmarked
    rw [hmarked]
  generalize markLast responses = marked at hrows
  induction hrows with
  | nil =>
      rfl
  | cons hhead _ ih =>
      rw [List.map_cons, List.map_cons, hhead, ih]

/-! ## The content types of responses -/

namespace OpenApi3

theorem eraseDupsBy_loop_eq (texts seen : List String) :
    List.eraseDupsBy.loop (· == ·) texts seen = (texts.foldl see seen).reverse := by
  induction texts generalizing seen with
  | nil =>
      rfl
  | cons t rest ih =>
      have hany : (seen.any fun u => t == u) = seen.contains t := by
        rw [List.contains_eq_any_beq]
      rw [List.eraseDupsBy.loop, List.foldl_cons, see, hany]
      cases seen.contains t with
      | true =>
          exact ih seen
      | false =>
          exact ih (t :: seen)

/-- The texts of a list in order of first appearance are the list without its later duplicates. -/
theorem firstAppearances_eq_eraseDups (texts : List String) :
    firstAppearances texts = texts.eraseDups := by
  rw [firstAppearances_eq, ← eraseDupsBy_loop_eq]
  rfl

theorem eraseDups_eq_nil_iff {texts : List String} : texts.eraseDups = [] ↔ texts = [] := by
  rw [List.eq_nil_iff_forall_not_mem, List.eq_nil_iff_forall_not_mem]
  simp only [List.mem_eraseDups]

/-- The only header of the responses lists their content types, each of them once. -/
theorem mem_acceptHeader_iff {responses : List Response} {header : Header} :
    header ∈ acceptHeader responses ↔
      responses ≠ [] ∧
        header = ⟨"Accept", quotedTexts (responses.map (·.contentType)).eraseDups⟩ := by
  rw [acceptHeader, firstAppearances_eq_eraseDups]
  by_cases hnone : responses = []
  · subst hnone
    simp
  · have hsome : (responses.map (·.contentType)).eraseDups.isEmpty = false := by
      rw [List.isEmpty_eq_false_iff, ne_eq, eraseDups_eq_nil_iff, List.map_eq_nil_iff]
      exact hnone
    simp only [hsome, Bool.false_eq_true, if_false, List.mem_singleton, ne_eq, hnone,
      not_false_eq_true, true_and]

/-! ## The content type of a request -/

/-- The request of an operation has a body, and the first key of its content map is displayed as a text that
is not empty. -/
def SentAs (setup : Setup) (op : Operation) (type : String) : Prop :=
  ∃ (body : Entries) (key : Scalar) (media : Value) (others : Entries),
    setup.deref .requestBody (op.node.member "requestBody") = .ok (.map body) ∧
      Body.content body = (key, media) :: others ∧ key.displayed = .ok type ∧ type ≠ ""

/-- Once the body is known, its first key decides. -/
theorem sentAs_iff {body : Entries} {type : String}
    (hbody : setup.deref .requestBody (op.node.member "requestBody") = .ok (.map body)) :
    SentAs setup op type ↔
      ∃ key media others, Body.content body = (key, media) :: others ∧ key.displayed = .ok type ∧
        type ≠ "" := by
  constructor
  · rintro ⟨body', key, media, others, hbody', hsent⟩
    rw [hbody] at hbody'
    cases hbody'
    exact ⟨key, media, others, hsent⟩
  · rintro ⟨key, media, others, hsent⟩
    exact ⟨body, key, media, others, hbody, hsent⟩

/-- A request is sent as one content type at most. -/
theorem SentAs.unique {type type' : String} (h : SentAs setup op type) (h' : SentAs setup op type') :
    type = type' := by
  obtain ⟨body, key, media, others, hbody, hcontent, hkey, _⟩ := h
  rw [sentAs_iff hbody, hcontent] at h'
  obtain ⟨key', media', others', hsame, hkey', _⟩ := h'
  cases hsame
  rw [hkey] at hkey'
  exact Except.ok.inj hkey'

/-- The content type of a content map: none if the map is empty, else the first one. -/
theorem chosen_cases {strict : Bool} {place : String} {content : Entries} {chosen : Option String} :
    (chooseContentType strict place (.map content)).outcome = .ok chosen →
      (content = [] ∧ chosen = none) ∨
        ∃ key media others type, content = (key, media) :: others ∧ key.displayed = .ok type ∧
          chosen = some type := by
  intro h
  simp only [chooseContentType, contentTypeTexts, displayedAll, Value.iterate, Traced.outcome_bind,
    Traced.outcome_lift, ok_bind, bind_eq_ok_iff, mapM_eq_ok_iff] at h
  obtain ⟨texts, htexts, h⟩ := h
  cases content with
  | nil =>
      cases htexts
      cases h
      exact .inl ⟨rfl, rfl⟩
  | cons entry others =>
      -- The first type is chosen.  A second one matters only where one type at most is allowed.
      obtain ⟨key, media⟩ := entry
      obtain ⟨type, rest, hkey, _, rfl⟩ := List.forall₂_cons_left_iff.1 htexts
      refine .inr ⟨key, media, others, type, rfl, hkey, ?_⟩
      cases rest with
      | nil =>
          cases h
          rfl
      | cons second rest =>
          cases strict with
          | true =>
              cases h
          | false =>
              cases h
              rfl

/-- Where the body of a request travels: as a form if its content type is that of one. -/
def bodyLocation (type : String) : Location :=
  if type ∈ formContentTypes then .form else .body

theorem location_of_parameter {override : Option String} {operation body : Entries} {strict : Bool}
    {place : String} {p : Parameter} {chosen : Option String} :
    (Body.parameter override operation strict place body).outcome = .ok (p, chosen) →
      (chooseContentType strict place (.map (Body.content body))).outcome = .ok chosen ∧
        ∀ type, chosen = some type → p.location = bodyLocation type := by
  intro h
  simp only [Body.parameter, Traced.outcome_bind, Traced.outcome_lift, Traced.outcome_pure,
    bind_eq_ok_iff, accept_eq_ok_iff, Except.ok.injEq, Prod.mk.injEq] at h
  obtain ⟨chosen', hchosen, name, _, type, _, _, ⟨_, rfl⟩, rfl, rfl⟩ := h
  refine ⟨hchosen, ?_⟩
  rintro type rfl
  simp [bodyLocation]

theorem contentTypeHeader_of_ne {type : String} (hne : type ≠ "") {headers : List Header} :
    contentTypeHeader (some type) = .ok headers →
      headers = [⟨"Content-Type", quotedTexts [type]⟩] := by
  intro h
  unfold contentTypeHeader at h
  split at h
  · rename_i hnone
    cases hnone
  · rename_i hempty
    cases hempty
    exact absurd rfl hne
  · rename_i type' _ hsome
    cases hsome
    simp only [bind_eq_ok_iff, pure_eq_ok_iff, headerOf, accept_eq_ok_iff] at h
    obtain ⟨header, ⟨_, rfl⟩, rfl⟩ := h
    rfl

/-- A request with a content type has a header that names it, and a parameter that stands for its body.  Any
other request has no header. -/
theorem body_cases {parameters : List Parameter} {headers : List Header} :
    (body setup op).outcome = .ok (parameters, headers) →
      (∃ type p, SentAs setup op type ∧ parameters = [p] ∧ p.location = bodyLocation type ∧
          headers = [⟨"Content-Type", quotedTexts [type]⟩]) ∨
        (∀ type, ¬ SentAs setup op type) ∧ headers = [] := by
  intro h
  simp only [body, Traced.outcome_bind, Traced.outcome_lift, bind_eq_ok_iff] at h
  obtain ⟨node, hnode, h⟩ := h
  cases node with
  | map node =>
      simp only [Traced.outcome_bind, Traced.outcome_lift, Traced.outcome_pure, bind_eq_ok_iff,
        Except.ok.injEq, Prod.mk.injEq] at h
      obtain ⟨place, _, ⟨p, chosen⟩, hp, headers', hheaders, rfl, rfl⟩ := h
      obtain ⟨hchosen, hlocation⟩ := location_of_parameter hp
      rcases chosen_cases hchosen with ⟨hempty, rfl⟩ | ⟨key, media, others, type, hcontent, hkey, rfl⟩
      · cases hheaders
        refine .inr ⟨?_, rfl⟩
        intro type hsent
        rw [sentAs_iff hnode, hempty] at hsent
        obtain ⟨_, _, _, hsame, _⟩ := hsent
        cases hsame
      · by_cases hne : type = ""
        · subst hne
          cases hheaders
          refine .inr ⟨?_, rfl⟩
          intro type hsent
          rw [sentAs_iff hnode, hcontent] at hsent
          obtain ⟨_, _, _, hsame, hkey', hne⟩ := hsent
          cases hsame
          rw [hkey] at hkey'
          exact hne (Except.ok.inj hkey').symm
        · have hsent : SentAs setup op type :=
            (sentAs_iff hnode).2 ⟨key, media, others, hcontent, hkey, hne⟩
          exact .inl ⟨type, p, hsent, rfl, hlocation type rfl, contentTypeHeader_of_ne hne hheaders⟩
  | _ =>
      cases h
      refine .inr ⟨?_, rfl⟩
      rintro type ⟨body, _, _, _, hbody, _⟩
      rw [hnode] at hbody
      cases hbody

/-- The only header of a body names the content type that it is sent as. -/
theorem mem_headers_of_body_iff {parameters : List Parameter} {headers : List Header}
    (h : (body setup op).outcome = .ok (parameters, headers)) (header : Header) :
    header ∈ headers ↔
      ∃ type, SentAs setup op type ∧ header = ⟨"Content-Type", quotedTexts [type]⟩ := by
  rcases body_cases h with ⟨type, p, hsent, _, _, rfl⟩ | ⟨hnone, rfl⟩
  · rw [List.mem_singleton]
    constructor
    · rintro rfl
      exact ⟨type, hsent, rfl⟩
    · rintro ⟨type', hsent', rfl⟩
      rw [hsent.unique hsent']
  · refine iff_of_false List.not_mem_nil ?_
    rintro ⟨type, hsent, _⟩
    exact hnone type hsent

/-! ## Methods of 3.x documents -/

/-- The contents of a 3.x method: a header lists the content types of the responses if there are any, another
one names the content type of the request if there is one, and then the last parameter stands for the body. -/
structure InStep (setup : Setup) (op : Operation) (m : Method) : Prop where
  accept : ∀ value, ⟨"Accept", value⟩ ∈ m.headers ↔
    m.responses ≠ [] ∧ value = quotedTexts (m.responses.map (·.contentType)).eraseDups
  contentType : ∀ value, ⟨"Content-Type", value⟩ ∈ m.headers ↔
    ∃ type, SentAs setup op type ∧ value = quotedTexts [type]
  body : ∀ type, SentAs setup op type →
    ∃ p, bodyParameters .openApi3 setup op = [p] ∧ m.parameters.getLast? = some p ∧
      p.location = bodyLocation type

/-- The headers and responses of a method keep in step with its content types. -/
theorem inStep_of_method :
    (Build.method .openApi3 setup op).outcome = .ok m → InStep setup op m := by
  intro h
  obtain ⟨declared, draft, _, hdraft, hm⟩ := method_eq_ok_iff.1 h
  obtain ⟨hparameters, hheaders, hresponses⟩ := filled_of_assemble hm
  have hbodyParameters := parameters_of_outline hdraft
  simp only [outline, bind_eq_ok_iff, pure_eq_ok_iff] at hdraft
  obtain ⟨_, _, _, _, responses, _, ⟨parameters, headers⟩, hbody, rfl⟩ := hdraft
  have hsent := mem_headers_of_body_iff hbody
  have hmarked : m.responses = markLast responses := hresponses
  have hmem : ∀ header, header ∈ m.headers ↔
      header ∈ acceptHeader responses ∨ header ∈ headers := by
    intro header
    rw [hheaders]
    exact List.mem_append
  refine ⟨?_, ?_, ?_⟩
  · intro value
    rw [hmem, hsent, mem_acceptHeader_iff, hmarked, map_contentType_markLast, ne_eq, ne_eq,
      markLast_eq_nil_iff]
    simp
  · intro value
    rw [hmem, hsent, mem_acceptHeader_iff]
    simp
  · intro type htype
    rcases body_cases hbody with ⟨type', p, htype', rfl, hlocation, _⟩ | ⟨hnone, _⟩
    · rw [htype.unique htype']
      refine ⟨p, hbodyParameters.symm, ?_, hlocation⟩
      rw [hparameters]
      exact List.getLast?_append_of_ne_nil _ (List.cons_ne_nil _ _)
    · exact absurd htype (hnone type)

end OpenApi3

/-! ## Responses of 2.0 documents -/

/-- The mapping that a response of success leads to, beside its status. -/
def successOf? (setup : Setup) (entry : Scalar × Value) : Option (Scalar × Entries) :=
  if succeeds entry.1 then
    ((setup.deref .response entry.2).toOption.bind Value.entries?).map (entry.1, ·)
  else none

/-- The mappings that the responses of success of an operation lead to, in order. -/
def successes (setup : Setup) (op : Operation) : List (Scalar × Entries) :=
  ((op.node.member "responses").entries?.getD []).filterMap (successOf? setup)

namespace Swagger2

/-- The shape of a response and a content type: it has the content type, and the status, the type and the
description of the response. -/
structure Describes (row : (Scalar × Entries) × Value) (r : Response) : Prop where
  status : r.status = row.1.1.display
  contentType : row.2.fieldText? = some r.contentType
  type : responseType (row.1.2.member "schema") = .ok r.type
  description : r.description = (row.1.2.member "description").fieldText?

variable {items : List Value}

/-- The shapes of a response describe its content types one by one. -/
theorem describes_of_responseShapes {status : Scalar} {node : Entries} {shapes : List Response} :
    responseShapes status items node = .ok shapes →
      List.Forall₂ (fun item r => Describes ((status, node), item) r) items shapes := by
  intro h
  simp only [responseShapes, bind_eq_ok_iff, mapM_eq_ok_iff] at h
  obtain ⟨type, htype, hshapes⟩ := h
  refine hshapes.imp fun item r hr => ?_
  obtain ⟨hproblems, rfl⟩ := accept_eq_ok_iff.1 hr
  simp only [List.append_eq_nil_iff] at hproblems
  obtain ⟨text, htext⟩ := Value.fieldText?_of_textProblems hproblems.1.1
  refine ⟨rfl, ?_, htype, rfl⟩
  rw [htext]
  rfl

/-- The shapes of a table of responses: for each response of success, one for each content type. -/
theorem describes_of_responseMembers {table : Entries} {shapes : List Response} :
    responseMembers setup items table = .ok shapes →
      List.Forall₂ Describes (table.filterMap (successOf? setup) ×ˢ items) shapes := by
  intro h
  induction table generalizing shapes with
  | nil =>
      cases h
      exact List.Forall₂.nil
  | cons entry rest ih =>
      obtain ⟨status, raw⟩ := entry
      simp only [responseMembers, bind_eq_ok_iff] at h
      obtain ⟨success, hsuccess, h⟩ := h
      cases success with
      | false =>
          -- An unsuccessful response has no shapes.
          have hskipped : successOf? setup (status, raw) = none := by
            simp [successOf?, succeeds, hsuccess, Except.toOption]
          rw [List.filterMap_cons_none hskipped]
          exact ih h
      | true =>
          have hsucceeds : succeeds status = true := by
            simp [succeeds, hsuccess, Except.toOption]
          simp only [if_true, bind_eq_ok_iff] at h
          obtain ⟨node, hnode, h⟩ := h
          -- What a reference leads to is a response only if it is a mapping.
          have hfound : successOf? setup (status, raw) = node.entries?.map (status, ·) := by
            rw [successOf?, if_pos hsucceeds, hnode]
            rfl
          cases node with
          | map response =>
              simp only [bind_eq_ok_iff, pure_eq_ok_iff] at h
              obtain ⟨first, hfirst, others, hothers, rfl⟩ := h
              have hrow : List.Forall₂ Describes (items.map ((status, response), ·)) first :=
                List.forall₂_map_left_iff.2 (describes_of_responseShapes hfirst)
              rw [List.filterMap_cons_some hfound, List.product_cons]
              exact List.rel_append hrow (ih hothers)
          | _ =>
              rw [List.filterMap_cons_none hfound]
              exact ih h

/-! ## Methods of 2.0 documents -/

/-- The contents of a 2.0 method that produces some items: a header lists the items, and each response of
success has one shape for each item, in order. -/
structure InStep (setup : Setup) (op : Operation) (items : List Value) (m : Method) : Prop where
  accept : ∃ texts, displayedAll items = .ok texts ∧
    ∀ value, ⟨"Accept", value⟩ ∈ m.headers ↔ value = quotedTexts texts
  responses : List.Forall₂ Describes (successes setup op ×ˢ items) m.responses

theorem name_of_contentTypeHeader {strict : Bool} {consumes : Value} {headers : List Header} :
    (contentTypeHeader strict op consumes).outcome = .ok headers →
      ∀ header ∈ headers, header.name = "Content-Type" := by
  intro h
  unfold contentTypeHeader at h
  split at h
  · simp only [Traced.outcome_bind, Traced.outcome_lift, bind_eq_ok_iff] at h
    obtain ⟨place, _, chosen, _, h⟩ := h
    cases chosen with
    | none =>
        cases h
        exact List.forall_mem_nil _
    | some type =>
        simp only [Traced.outcome_bind, Traced.outcome_lift, Traced.outcome_pure, bind_eq_ok_iff,
          Except.ok.injEq, headerOf, accept_eq_ok_iff] at h
        obtain ⟨header, ⟨_, rfl⟩, rfl⟩ := h
        exact List.forall_mem_singleton.2 rfl
  · cases h
    exact List.forall_mem_nil _

theorem acceptHeader_of_items {items : List Value} (hne : items ≠ []) {headers : List Header} :
    acceptHeader (.list items) = .ok headers →
      ∃ texts, displayedAll items = .ok texts ∧ headers = [⟨"Accept", quotedTexts texts⟩] := by
  intro h
  have htruthy : (Value.list items).truthy = true := by
    simpa [Value.truthy] using hne
  rw [acceptHeader, if_pos htruthy] at h
  simp only [quotedList, Value.iterate, ok_bind, bind_eq_ok_iff, pure_eq_ok_iff, headerOf,
    accept_eq_ok_iff] at h
  obtain ⟨_, ⟨texts, htexts, rfl⟩, _, ⟨_, rfl⟩, rfl⟩ := h
  exact ⟨texts, htexts, rfl⟩

/-- The shapes of an operation that produces some items, or none if it has no table of responses. -/
theorem describes_of_responses {items : List Value} (hne : items ≠ []) {shapes : List Response} :
    responses setup op (.list items) = .ok shapes →
      List.Forall₂ Describes (successes setup op ×ˢ items) shapes := by
  intro h
  have htypes : responseTypes (.list items) = .ok items := by
    obtain ⟨item, rest, rfl⟩ := List.exists_cons_of_ne_nil hne
    rfl
  unfold responses at h
  unfold successes
  split at h
  · rename_i table htable
    rw [htypes, ok_bind] at h
    rw [htable]
    exact describes_of_responseMembers h
  · rename_i hnone
    cases h
    have hentries : (op.node.member "responses").entries? = none := by
      cases hresponses : op.node.member "responses" with
      | map table =>
          exact absurd hresponses (hnone table)
      | _ =>
          rfl
    rw [hentries]
    exact List.Forall₂.nil

/-- The headers and responses of a method keep in step with what it produces. -/
theorem inStep_of_method {items : List Value} (hproduces : effectiveProduces setup op = .list items)
    (hne : items ≠ []) :
    (Build.method .swagger2 setup op).outcome = .ok m → InStep setup op items m := by
  intro h
  obtain ⟨declared, draft, _, hdraft, hm⟩ := method_eq_ok_iff.1 h
  obtain ⟨_, hheaders, hresponses⟩ := filled_of_assemble hm
  simp only [outline, hproduces, headers, Traced.outcome_bind, Traced.outcome_lift,
    Traced.outcome_pure, bind_eq_ok_iff, pure_eq_ok_iff, Except.ok.injEq] at hdraft
  obtain ⟨_, _, _, _, _, ⟨accepted, haccepted, sent, hsent, rfl⟩, shapes, hshapes, rfl⟩ := hdraft
  obtain ⟨texts, htexts, rfl⟩ := acceptHeader_of_items hne haccepted
  have hlisted : m.headers = ⟨"Accept", quotedTexts texts⟩ :: sent := hheaders
  have hmarked : m.responses = markLast shapes := hresponses
  refine ⟨⟨texts, htexts, ?_⟩, ?_⟩
  · intro value
    rw [hlisted, List.mem_cons]
    constructor
    · rintro (hsame | hmem)
      · exact congrArg Header.value hsame
      · -- The other header has another name.
        have hname : "Accept" = "Content-Type" := name_of_contentTypeHeader hsent _ hmem
        exact absurd hname (by decide)
    · rintro rfl
      exact Or.inl rfl
  · rw [hmarked]
    refine (forall₂_through (describes_of_responses hne hshapes) (markLast_forall₂ shapes)).imp ?_
    rintro row marked ⟨r, ⟨hstatus, hcontentType, htype, hdescription⟩, hmarked⟩
    rw [hmarked]
    exact ⟨hstatus, hcontentType, htype, hdescription⟩

end Swagger2

/-! ## Views -/

/-- Whatever a view is built of, each of its methods has its contents in step.  In a 3.x view a header lists
the content types of the responses without repetition, unless there are no responses; another one names the
content type of the request, if its body has one that is not empty, and then the last parameter stands for
the body and travels as a form or as such.  In a 2.0 view a method that produces some items lists them in a
header, and has one shape for each response of success and each item. -/
theorem contents_in_step (document : Value) (options : Options) (target : Target) (v : View) :
    ((view .openApi3 document options target).outcome = .ok v →
      ∃ entries, document = .map entries ∧
        List.Forall₂ (OpenApi3.InStep ⟨entries, options, target.isServerSide⟩)
          (retained .openApi3 entries) v.methods) ∧
    ((view .swagger2 document options target).outcome = .ok v →
      ∃ entries, document = .map entries ∧
        List.Forall₂
          (fun op m => ∀ items,
            effectiveProduces ⟨entries, options, target.isServerSide⟩ op = .list items → items ≠ [] →
              Swagger2.InStep ⟨entries, options, target.isServerSide⟩ op items m)
          (retained .swagger2 entries) v.methods) := by
  constructor
  · intro h
    obtain ⟨entries, drafts, hdocument, hviewed⟩ := viewed_of_view h
    refine ⟨entries, hdocument, hviewed.methods_forall₂.imp ?_⟩
    rintro op m ⟨draft, hdraft, hnamed, _⟩
    -- Naming a method keeps everything but the name.
    rw [hnamed]
    exact { OpenApi3.inStep_of_method hdraft with }
  · intro h
    obtain ⟨entries, drafts, hdocument, hviewed⟩ := viewed_of_view h
    refine ⟨entries, hdocument, hviewed.methods_forall₂.imp ?_⟩
    rintro op m ⟨draft, hdraft, hnamed, _⟩ items hproduces hne
    rw [hnamed]
    exact { Swagger2.inStep_of_method hproduces hne hdraft with }

/-- An operation with a shared body that is a form or JSON and with repeated content types, and an operation
with neither body nor contents. -/
def uploadDocument : Entries :=
  [(.str "components", .object
      [("requestBodies", .object
        [("Photo", .object [("content", .object
          [("multipart/form-data", .object []), ("application/json", .object [])])])])]),
    (.str "paths", .object
      [("/photos", .object
        [("post", .object
            [("requestBody", .object [("$ref", .str "#/components/requestBodies/Photo")]),
              ("responses", .object
                [("200", .object
                    [("content", .object [("text/plain", .object []), ("text/csv", .object [])])]),
                  ("201", .object [("content", .object [("text/plain", .object [])])])])]),
          ("get", .object [("responses", .object [("200", .object [])])])])])]

/-- An operation whose content types are those of the document, with a shared response of success. -/
def sharedTypesDocument : Entries :=
  [(.str "produces", .list [.str "text/plain", .str "text/csv"]),
    (.str "responses", .object
      [("Created", .object [("schema", .object [("type", .str "integer")])])]),
    (.str "paths", .object
      [("/photos", .object
        [("post", .object
          [("produces", .list []),
            ("responses", .object
              [("200", .object []), ("404", .object []),
                ("201", .object [("$ref", .str "#/responses/Created")])])])])])]

/-- The headers of a method, the statuses, content types and types of its responses, and the locations of its
parameters. -/
def contentsSummary (m : Method) :
    List Header × List (List String) × List Location :=
  (m.headers, m.responses.map fun r => [r.status, r.contentType, r.type], m.parameters.map (·.location))

theorem uploads_and_shared_types_in_step :
    (∃ v, (view .openApi3 (.map uploadDocument) {} .custom).outcome = .ok v ∧
      v.methods.map contentsSummary =
        [([⟨"Accept", "'text/plain, text/csv'"⟩, ⟨"Content-Type", "'multipart/form-data'"⟩],
            [["200", "text/plain", "void"], ["200", "text/csv", "void"], ["201", "text/plain", "void"]],
            [.form]), ([], [], [])] ∧
        List.Forall₂ (OpenApi3.InStep ⟨uploadDocument, {}, Target.custom.isServerSide⟩)
          (retained .openApi3 uploadDocument) v.methods) ∧
    ∃ v op m, (view .swagger2 (.map sharedTypesDocument) {} .custom).outcome = .ok v ∧ v.methods = [m] ∧
      contentsSummary m =
        ([⟨"Accept", "'text/plain, text/csv'"⟩],
          [["200", "text/plain", "void"], ["200", "text/csv", "void"], ["201", "text/plain", "number"],
            ["201", "text/csv", "number"]], []) ∧
        Swagger2.InStep ⟨sharedTypesDocument, {}, Target.custom.isServerSide⟩ op
          [.str "text/plain", .str "text/csv"] m := by
  constructor
  · have hrun : (view .openApi3 (.map uploadDocument) {} .custom).outcome.toOption.map
        (fun v => v.methods.map contentsSummary) =
          some [([⟨"Accept", "'text/plain, text/csv'"⟩, ⟨"Content-Type", "'multipart/form-data'"⟩],
            [["200", "text/plain", "void"], ["200", "text/csv", "void"], ["201", "text/plain", "void"]],
            [.form]), ([], [], [])] := by
      decide +kernel
    obtain ⟨v, hv, hsummary⟩ := exists_ok_of_toOption_map hrun
    obtain ⟨entries, hentries, hmethods⟩ := (contents_in_step _ _ _ v).1 hv
    cases hentries
    exact ⟨v, hv, hsummary, hmethods⟩
  · have hrun : (view .swagger2 (.map sharedTypesDocument) {} .custom).outcome.toOption.map
        (fun v => v.methods.map contentsSummary) =
          some [([⟨"Accept", "'text/plain, text/csv'"⟩],
            [["200", "text/plain", "void"], ["200", "text/csv", "void"], ["201", "text/plain", "number"],
              ["201", "text/csv", "number"]], [])] := by
      decide +kernel
    have hproduces : (retained .swagger2 sharedTypesDocument).map
        (effectiveProduces ⟨sharedTypesDocument, {}, Target.custom.isServerSide⟩) =
          [.list [.str "text/plain", .str "text/csv"]] := by
      decide +kernel
    obtain ⟨v, hv, hsummary⟩ := exists_ok_of_toOption_map hrun
    obtain ⟨entries, hentries, hmethods⟩ := (contents_in_step _ _ _ v).2 hv
    cases hentries
    obtain ⟨m, hm, hsummary⟩ := List.map_eq_singleton_iff.1 hsummary
    obtain ⟨op, hop, hproduces⟩ := List.map_eq_singleton_iff.1 hproduces
    rw [hop, hm, List.forall₂_cons] at hmethods
    exact ⟨v, op, m, hv, hm, hsummary, hmethods.1 _ hproduces (List.cons_ne_nil _ _)⟩

end Build
end ApiView
