import ApiView.Proofs.Outcomes
import ApiView.Proofs.Yaml.Numbers
import ApiView.Proofs.Yaml.Writing
import ApiView.Yaml.Document

/-!
# Composing — the value of the tokens of a portable JSON text

The tokens that a piece is written as are put together into nodes, and the nodes amount to what the piece
is written for.  Nothing in them fails, on no level of the document:

* `Outcome.IsClear`: outcomes without a fault on any level;
* `Node.Means`, `Node.Names`: the value of a node, and the name that it is as a key;
* `node_of_begins`, `flowItems_comma`, `flowPairs_comma`: what the composer does in front of a token;
* `composes_of_written`: the nodes of a piece;
* `ofTokens_of_written`: the node of a whole text.
-/

namespace ApiView
namespace Yaml

/-! ## Outcomes without faults -/

namespace Outcome

/-- An outcome without a fault of its own or on a level inside. -/
structure IsClear (o : Outcome) : Prop where
  failure : o.failure = none
  inside : ∀ level ∈ o.inside, level = none

theorem mergeLevels_clear {as bs : List (Option Fault)} (has : ∀ level ∈ as, level = none)
    (hbs : ∀ level ∈ bs, level = none) : ∀ level ∈ mergeLevels as bs, level = none := by
  induction as generalizing bs with
  | nil =>
      simpa only [mergeLevels] using hbs
  | cons a as ih =>
      cases bs with
      | nil =>
          simpa only [mergeLevels] using has
      | cons b bs =>
          obtain ⟨ha, has⟩ := List.forall_mem_cons.1 has
          obtain ⟨hb, hbs⟩ := List.forall_mem_cons.1 hbs
          rw [mergeLevels]
          exact List.forall_mem_cons.2 ⟨by rw [ha, hb]; rfl, ih has hbs⟩

theorem foldr_mergeLevels_clear {rows : List (List (Option Fault))}
    (h : ∀ levels ∈ rows, ∀ level ∈ levels, level = none) :
    ∀ level ∈ rows.foldr mergeLevels [], level = none := by
  induction rows with
  | nil =>
      exact nofun
  | cons levels rows ih =>
      obtain ⟨hlevels, hrows⟩ := List.forall_mem_cons.1 h
      exact mergeLevels_clear hlevels (ih hrows)

theorem ofScalar_clear (s : Scalar) : (ofScalar (.ok s)).IsClear :=
  ⟨rfl, nofun⟩

/-- A list of clear items is clear. -/
theorem ofItems_clear {items : List Outcome} (h : ∀ o ∈ items, o.IsClear) : (ofItems items).IsClear := by
  refine ⟨rfl, List.forall_mem_cons.2 ⟨?_, foldr_mergeLevels_clear ?_⟩⟩
  · exact List.findSome?_eq_none_iff.2 fun o ho => (h o ho).failure
  · exact List.forall_mem_map.2 fun o ho => (h o ho).inside

theorem ofMembers_clear {members : List Member}
    (h : ∀ m ∈ members, (∃ s, m.1 = .ok s) ∧ m.2.IsClear) : (ofMembers members).IsClear := by
  refine ⟨rfl, List.forall_mem_cons.2 ⟨?_, foldr_mergeLevels_clear ?_⟩⟩
  · refine List.findSome?_eq_none_iff.2 fun m hm => ?_
    obtain ⟨⟨s, hkey⟩, hclear⟩ := h m hm
    rw [Member.failure, hkey]
    exact hclear.failure
  · exact List.forall_mem_map.2 fun m hm => (h m hm).2.inside

/-- What is clear has its value. -/
theorem IsClear.result {o : Outcome} (h : o.IsClear) : o.result = .ok o.value := by
  have hnone : (o.failure :: o.inside).findSome? id = none :=
    List.findSome?_eq_none_iff.2 (List.forall_mem_cons.2 ⟨h.failure, h.inside⟩)
  rw [Outcome.result, hnone]

end Outcome

/-! ## What nodes mean -/

namespace Node

/-- A node amounts to a value, without a fault. -/
structure Means (n : Node) (v : Value) : Prop where
  value : n.part.outcome.value = v
  clear : n.part.outcome.IsClear

/-- A node is a name as a key, and takes over no members. -/
structure Names (n : Node) (name : String) : Prop where
  key : n.part.key = .ok (.str name)
  isMerge : n.part.isMerge = false

/-- A pair of nodes is a member. -/
def MeansMember (pair : Node × Node) (member : Scalar × Value) : Prop :=
  ∃ name, member.1 = .str name ∧ pair.1.Names name ∧ pair.2.Means member.2

theorem itemParts_eq_map (ns : List Node) : itemParts ns = ns.map part := by
  induction ns with
  | nil =>
      rfl
  | cons n ns ih =>
      rw [itemParts, ih, List.map_cons]

theorem pairParts_eq_map (pairs : List (Node × Node)) :
    pairParts pairs = pairs.map fun pair => (pair.1.part, pair.2.part) := by
  induction pairs with
  | nil =>
      rfl
  | cons pair pairs ih =>
      rw [pairParts, ih, List.map_cons]

/-- A portable plain scalar means the number or word that JSON reads it as. -/
theorem means_plain {text : List Char} {s : Scalar} (hnumeral : Json.Numeral text s)
    (hportable : Json.isPortablePlain text = true) (place : Nat) :
    (scalar .implicit place text).Means (.scalar s) := by
  have houtcome : (scalar .implicit place text).part.outcome = .ofScalar (.ok s) := by
    rw [← construct_of_numeral hnumeral hportable place]
    rfl
  refine ⟨?_, ?_⟩
  · rw [houtcome]
    rfl
  · rw [houtcome]
    exact Outcome.ofScalar_clear s

/-- A quoted scalar means its text. -/
theorem means_quoted (place : Nat) (letters : List Char) :
    (scalar .quoted place letters).Means (.str (String.ofList letters)) :=
  ⟨rfl, Outcome.ofScalar_clear _⟩

theorem names_quoted (place : Nat) (letters : List Char) :
    (scalar .quoted place letters).Names (String.ofList letters) :=
  ⟨rfl, rfl⟩

/-- A sequence means the list of what its nodes mean. -/
theorem means_sequence {ns : List Node} {items : List Value} (h : List.Forall₂ Means ns items)
    (place : Nat) : (sequence .implicit place ns).Means (.list items) := by
  have houtcome : (sequence .implicit place ns).part.outcome
      = .ofItems (ns.map fun n => n.part.outcome) := by
    rw [part, itemParts_eq_map]
    simp only [Part.ofItems, Tag.type?, NodeType.outcome, List.map_map, Function.comp_def]
  have hvalues : ns.map (fun n => n.part.outcome.value) = items := by
    have hrows := List.forall₂_map_left_iff.2 (h.imp fun _ _ hn => hn.value)
    rwa [List.forall₂_eq_eq_eq] at hrows
  refine ⟨?_, ?_⟩
  · simp only [houtcome, Outcome.ofItems, List.map_map, Function.comp_def, hvalues]
  · rw [houtcome]
    refine Outcome.ofItems_clear (List.forall_mem_map.2 fun n hn => ?_)
    obtain ⟨v, -, hv⟩ := exists_match h hn
    exact hv.clear

/-- The members of pairs that take over nothing. -/
theorem membersOf_pairParts {pairs : List (Node × Node)} {members : Entries}
    (h : List.Forall₂ MeansMember pairs members) :
    Part.membersOf (pairParts pairs) =
      .ok (pairs.map fun pair => (pair.1.part.key, pair.2.part.outcome)) := by
  have hkeys : ∀ pair ∈ pairs, pair.1.part.isMerge = false := by
    intro pair hpair
    obtain ⟨member, -, name, -, hname, -⟩ := exists_match h hpair
    exact hname.isMerge
  have htaken : (pairParts pairs).filter (·.1.isMerge) = [] := by
    rw [pairParts_eq_map, List.filter_eq_nil_iff]
    exact List.forall_mem_map.2 fun pair hpair => by simp [hkeys pair hpair]
  have hown : ∀ isOwn : Part × Part → Bool, (∀ pair, isOwn pair = !pair.1.isMerge) →
      (pairParts pairs).filter isOwn = pairParts pairs := by
    intro isOwn hisOwn
    rw [pairParts_eq_map, List.filter_eq_self]
    exact List.forall_mem_map.2 fun pair hpair => by simp [hisOwn, hkeys pair hpair]
  rw [Part.membersOf, htaken, List.mapM_nil, hown _ fun _ => rfl, pairParts_eq_map]
  simp only [pure_bind, List.flatten_nil, List.nil_append, List.map_map, Function.comp_def]
  rfl

/-- A mapping means the members that its pairs mean. -/
theorem means_mapping {pairs : List (Node × Node)} {members : Entries}
    (h : List.Forall₂ MeansMember pairs members) (place : Nat) :
    (mapping .implicit place pairs).Means (.map (Entries.ofPairs members)) := by
  have houtcome : (mapping .implicit place pairs).part.outcome
      = .ofMembers (pairs.map fun pair => (pair.1.part.key, pair.2.part.outcome)) := by
    rw [part, Part.ofPairs, membersOf_pairParts h]
    rfl
  have hentries : (pairs.map fun pair => (pair.1.part.key, pair.2.part.outcome)).filterMap Member.entry?
      = members := by
    clear houtcome
    induction h with
    | nil =>
        rfl
    | @cons pair member pairs members hmember _ ih =>
        obtain ⟨name, hkey, hname, hvalue⟩ := hmember
        rw [List.map_cons, List.filterMap_cons, Member.entry?, hname.key, ih, hvalue.value, ← hkey]
        rfl
  refine ⟨?_, ?_⟩
  · rw [houtcome, Outcome.ofMembers, hentries]
  · rw [houtcome]
    refine Outcome.ofMembers_clear (List.forall_mem_map.2 fun pair hpair => ?_)
    obtain ⟨member, -, name, -, hname, hvalue⟩ := exists_match h hpair
    exact ⟨⟨_, hname.key⟩, hvalue.clear⟩

end Node
namespace Composer

/-! ## In front of a token -/

variable {c : Composer} {t : Token} {tokens more rest : List Token} {fuel : Nat}

/-- The same state in front of other tokens. -/
def before (c : Composer) (tokens : List Token) : Composer :=
  { c with tokens := tokens }

@[simp]
theorem next?_before : (c.before (t :: tokens)).next? = .ok (some t) := rfl

@[simp]
theorem drop_before : (c.before (t :: tokens)).drop = c.before tokens := rfl

@[simp]
theorem nextIs_before (stops : List Token) :
    (c.before (t :: tokens)).nextIs stops = .ok (stops.contains t) := rfl

/-- Whether a node begins with a token of JSON. -/
def begins : Token → Bool
  | .scalar _ _ | .flowSequenceStart | .flowMappingStart => true
  | _ => false

/-- A value begins with the token of a scalar or of an opening bracket. -/
theorem exists_begins {v : Value} {text : List Char} (h : Written (.value v) text tokens) :
    ∃ t rest, tokens = t :: rest ∧ begins t = true := by
  cases h <;> exact ⟨_, _, rfl, rfl⟩

/-- A node without an anchor and a tag is its content. -/
theorem node_of_begins (ht : begins t = true) (block indentless : Bool) :
    node block indentless (fuel + 1) (c.before (t :: tokens)) =
      content block indentless none none fuel (c.before (t :: tokens)) := by
  rw [node]
  cases t <;> first | exact bind_pure (content block indentless none none fuel _) | cases ht

/-- A scalar is composed of one token. -/
theorem node_scalar (block indentless plain : Bool) (text : List Char) :
    node block indentless (fuel + 2) (c.before (.scalar plain text :: tokens)) =
      .ok (.scalar (tagOf plain none) (tokens.length + 1) text, c.before tokens) := by
  rw [node_of_begins rfl, content]
  rfl

/-- A sequence in brackets is composed of its items. -/
theorem node_sequence {ns : List Node}
    (hns : flowItems true fuel (c.before tokens) = .ok (ns, c.before more)) (block indentless : Bool) :
    node block indentless (fuel + 2) (c.before (.flowSequenceStart :: tokens)) =
      .ok (.sequence .implicit (tokens.length + 1) ns, c.before more) := by
  rw [node_of_begins rfl, content, next?_before, ok_bind]
  simp only [drop_before, hns]
  rfl

/-- A mapping in braces is composed of its pairs. -/
theorem node_mapping {pairs : List (Node × Node)}
    (hpairs : flowPairs true fuel (c.before tokens) = .ok (pairs, c.before more))
    (block indentless : Bool) :
    node block indentless (fuel + 2) (c.before (.flowMappingStart :: tokens)) =
      .ok (.mapping .implicit (tokens.length + 1) pairs, c.before more) := by
  rw [node_of_begins rfl, content, next?_before, ok_bind]
  simp only [drop_before, hpairs]
  rfl

theorem flowItems_end (first : Bool) :
    flowItems first (fuel + 1) (c.before (.flowSequenceEnd :: tokens)) = .ok ([], c.before tokens) := by
  rw [flowItems]
  rfl

/-- What follows a comma is like what follows the bracket. -/
theorem flowItems_comma :
    flowItems false (fuel + 1) (c.before (.flowEntry :: tokens)) =
      flowItems true (fuel + 1) (c.before tokens) := by
  rw [flowItems, flowItems]
  cases tokens with
  | nil =>
      obtain ⟨_, ending, _, _⟩ := c
      cases ending <;> rfl
  | cons t tokens =>
      cases t <;> rfl

/-- An item in brackets, and those after it. -/
theorem flowItems_cons {n : Node} {ns : List Node} (ht : begins t = true)
    (hn : node false false fuel (c.before (t :: tokens)) = .ok (n, c.before more))
    (hns : flowItems false fuel (c.before more) = .ok (ns, c.before rest)) :
    flowItems true (fuel + 1) (c.before (t :: tokens)) = .ok (n :: ns, c.before rest) := by
  have hfirst : flowItems true (fuel + 1) (c.before (t :: tokens)) =
      node false false fuel (c.before (t :: tokens)) >>= fun first =>
        flowItems false fuel first.2 >>= fun others => .ok (first.1 :: others.1, others.2) := by
    rw [flowItems]
    cases t <;> first | rfl | cases ht
  rw [hfirst, hn, ok_bind, hns, ok_bind]

theorem flowPairs_end (first : Bool) :
    flowPairs first (fuel + 1) (c.before (.flowMappingEnd :: tokens)) = .ok ([], c.before tokens) := by
  rw [flowPairs]
  rfl

/-- What follows a comma is like what follows the brace. -/
theorem flowPairs_comma :
    flowPairs false (fuel + 1) (c.before (.flowEntry :: tokens)) =
      flowPairs true (fuel + 1) (c.before tokens) := by
  rw [flowPairs, flowPairs]
  cases tokens with
  | nil =>
      obtain ⟨_, ending, _, _⟩ := c
      cases ending <;> rfl
  | cons t tokens =>
      cases t <;> rfl

theorem nodeUnless_of_begins {stops : List Token} (hstops : ∀ t ∈ stops, begins t = false)
    (ht : begins t = true) (block indentless : Bool) :
    nodeUnless stops block indentless (fuel + 1) (c.before (t :: tokens)) =
      node block indentless fuel (c.before (t :: tokens)) := by
  have hnot : stops.contains t = false := by
    simp only [List.contains_eq_mem, decide_eq_false_iff_not]
    intro hmem
    rw [hstops t hmem] at ht
    cases ht
  rw [nodeUnless, nextIs_before, ok_bind, hnot]
  rfl

/-- A value that begins after a colon is not left out. -/
theorem valueUnless_of_begins {stops : List Token} (hstops : ∀ t ∈ stops, begins t = false)
    (ht : begins t = true) (block indentless : Bool) :
    valueUnless stops block indentless (fuel + 2) (c.before (.value :: t :: tokens)) =
      node block indentless fuel (c.before (t :: tokens)) := by
  rw [← nodeUnless_of_begins hstops ht, valueUnless]
  rfl

/-- A pair with a quoted name. -/
theorem flowPairs_cons {n : Node} {pairs : List (Node × Node)} (ht : begins t = true)
    (hn : node false false (fuel + 1) (c.before (t :: tokens)) = .ok (n, c.before more))
    (hpairs : flowPairs false (fuel + 3) (c.before more) = .ok (pairs, c.before rest))
    (letters : List Char) :
    flowPairs true (fuel + 4) (c.before (.key :: .scalar false letters :: .value :: t :: tokens)) =
      .ok ((.scalar .quoted (tokens.length + 3) letters, n) :: pairs, c.before rest) := by
  have hfirst : flowPairs true (fuel + 4)
      (c.before (.key :: .scalar false letters :: .value :: t :: tokens)) =
      nodeUnless [.value, .flowEntry, .flowMappingEnd] false false (fuel + 3)
        (c.before (.scalar false letters :: .value :: t :: tokens)) >>= fun key =>
          valueUnless [.flowEntry, .flowMappingEnd] false false (fuel + 3) key.2 >>= fun value =>
            flowPairs false (fuel + 3) value.2 >>= fun others =>
              .ok ((key.1, value.1) :: others.1, others.2) := by
    rw [flowPairs]
    rfl
  have hvalue : valueUnless [.flowEntry, .flowMappingEnd] false false (fuel + 3)
      (c.before (.value :: t :: tokens)) = .ok (n, c.before more) := by
    rw [valueUnless_of_begins (by decide) ht, hn]
  rw [hfirst, nodeUnless_of_begins (by decide) rfl, node_scalar, ok_bind, hvalue, ok_bind, hpairs]
  rfl

/-! ## Pieces -/

/-- How a piece is put together from its tokens, whatever follows them. -/
def ComposesAs (tokens : List Token) : Piece → Prop
  | .value v => ∀ {c : Composer} {more : List Token} {fuel : Nat} (block indentless : Bool),
      2 * tokens.length ≤ fuel →
        ∃ n, node block indentless fuel (c.before (tokens ++ more)) = .ok (n, c.before more) ∧ n.Means v
  | .items items => ∀ {c : Composer} {more : List Token} {fuel : Nat}, 2 * tokens.length ≤ fuel →
      ∃ ns, flowItems true fuel (c.before (tokens ++ more)) = .ok (ns, c.before more) ∧
        List.Forall₂ Node.Means ns items
  | .member name v => ∀ {c : Composer} {more : List Token} {fuel : Nat}, 2 * tokens.length ≤ fuel →
      ∃ pair, (∀ {pairs rest}, flowPairs false fuel (c.before more) = .ok (pairs, c.before rest) →
        flowPairs true (fuel + 1) (c.before (tokens ++ more)) = .ok (pair :: pairs, c.before rest)) ∧
        Node.MeansMember pair (.str name, v)
  | .members members => ∀ {c : Composer} {more : List Token} {fuel : Nat}, 2 * tokens.length ≤ fuel →
      ∃ pairs, flowPairs true fuel (c.before (tokens ++ more)) = .ok (pairs, c.before more) ∧
        List.Forall₂ Node.MeansMember pairs members

/-- The tokens that a piece is written as are put together into nodes that mean the piece. -/
theorem composes_of_written {piece : Piece} {text : List Char} {tokens : List Token}
    (h : Written piece text tokens) : ComposesAs tokens piece := by
  -- Every token pays for two calls: one for its node and one for the content of the node, or, at a comma
  -- or a closing bracket, one for the rest of the row.
  induction h with
  | @plain text s hnumeral hportable =>
      intro c more fuel block indentless hfuel
      obtain ⟨fuel, rfl⟩ := Nat.exists_eq_add_of_le' hfuel
      exact ⟨_, node_scalar .., Node.means_plain hnumeral hportable _⟩
  | @string body letters _ =>
      intro c more fuel block indentless hfuel
      obtain ⟨fuel, rfl⟩ := Nat.exists_eq_add_of_le' hfuel
      exact ⟨_, node_scalar .., Node.means_quoted _ letters⟩
  | emptyList _ =>
      intro c more fuel block indentless hfuel
      obtain ⟨fuel, rfl⟩ := Nat.exists_eq_add_of_le' hfuel
      exact ⟨_, node_sequence (flowItems_end true) .., Node.means_sequence .nil _⟩
  | list _ _ ih =>
      intro c more fuel block indentless hfuel
      rw [List.length_cons] at hfuel
      obtain ⟨fuel, rfl⟩ := Nat.exists_eq_add_of_le' (show 2 ≤ fuel by omega)
      obtain ⟨ns, hns, hmeans⟩ := ih (show _ ≤ fuel by omega)
      exact ⟨_, node_sequence hns .., Node.means_sequence hmeans _⟩
  | emptyMap _ =>
      intro c more fuel block indentless hfuel
      obtain ⟨fuel, rfl⟩ := Nat.exists_eq_add_of_le' hfuel
      exact ⟨_, node_mapping (flowPairs_end true) .., Node.means_mapping .nil _⟩
  | map _ _ ih =>
      intro c more fuel block indentless hfuel
      rw [List.length_cons] at hfuel
      obtain ⟨fuel, rfl⟩ := Nat.exists_eq_add_of_le' (show 2 ≤ fuel by omega)
      obtain ⟨pairs, hpairs, hmeans⟩ := ih (show _ ≤ fuel by omega)
      exact ⟨_, node_mapping hpairs .., Node.means_mapping hmeans _⟩
  | lastItem hwritten _ ih =>
      intro c more fuel hfuel
      rw [List.length_append, List.length_singleton] at hfuel
      obtain ⟨fuel, rfl⟩ := Nat.exists_eq_add_of_le' (show 2 ≤ fuel by omega)
      obtain ⟨n, hn, hmeans⟩ := ih false false (show _ ≤ fuel + 1 by omega)
      obtain ⟨t, tokens, rfl, ht⟩ := exists_begins hwritten
      refine ⟨[n], ?_, .cons hmeans .nil⟩
      rw [List.append_assoc]
      exact flowItems_cons ht hn (flowItems_end false)
  | nextItem hwritten _ _ _ ih ih' =>
      intro c more fuel hfuel
      rw [List.length_append, List.length_cons] at hfuel
      obtain ⟨fuel, rfl⟩ := Nat.exists_eq_add_of_le' (show 2 ≤ fuel by omega)
      obtain ⟨n, hn, hmeans⟩ := ih false false (show _ ≤ fuel + 1 by omega)
      obtain ⟨t, tokens, rfl, ht⟩ := exists_begins hwritten
      obtain ⟨ns, hns, hmeans'⟩ := ih' (show _ ≤ fuel + 1 by omega)
      refine ⟨n :: ns, ?_, .cons hmeans hmeans'⟩
      rw [List.append_assoc]
      exact flowItems_cons ht hn (flowItems_comma.trans hns)
  | @member body letters _ _ _ _ _ _ _ _ _ hwritten ih =>
      -- The mark of the key, the name and the colon pay for the calls around the two nodes.
      intro c more fuel hfuel
      rw [List.length_cons, List.length_cons, List.length_cons] at hfuel
      obtain ⟨fuel, rfl⟩ := Nat.exists_eq_add_of_le' (show 3 ≤ fuel by omega)
      obtain ⟨n, hn, hmeans⟩ := ih false false (show _ ≤ fuel + 1 by omega)
      obtain ⟨t, tokens, rfl, ht⟩ := exists_begins hwritten
      exact ⟨(_, n), fun hpairs => flowPairs_cons ht hn hpairs letters,
        _, rfl, Node.names_quoted _ letters, hmeans⟩
  | lastMember _ _ ih =>
      intro c more fuel hfuel
      rw [List.length_append, List.length_singleton] at hfuel
      obtain ⟨fuel, rfl⟩ := Nat.exists_eq_add_of_le' (show 2 ≤ fuel by omega)
      obtain ⟨pair, hpair, hmeans⟩ := ih (show _ ≤ fuel + 1 by omega)
      refine ⟨[pair], ?_, .cons hmeans .nil⟩
      rw [List.append_assoc]
      exact hpair (flowPairs_end false)
  | nextMember _ _ _ _ ih ih' =>
      intro c more fuel hfuel
      rw [List.length_append, List.length_cons] at hfuel
      obtain ⟨fuel, rfl⟩ := Nat.exists_eq_add_of_le' (show 2 ≤ fuel by omega)
      obtain ⟨pair, hpair, hmeans⟩ := ih (show _ ≤ fuel + 1 by omega)
      obtain ⟨pairs, hpairs, hmeans'⟩ := ih' (show _ ≤ fuel + 1 by omega)
      refine ⟨pair :: pairs, ?_, .cons hmeans hmeans'⟩
      rw [List.append_assoc]
      exact hpair (flowPairs_comma.trans hpairs)

/-! ## Documents -/

/-- A document of one value and nothing else. -/
theorem document_of_written {v : Value} {text : List Char} (h : Written (.value v) text tokens)
    (hending : c.ending = none) : ∃ n, (c.before tokens).document = .ok (some n) ∧ n.Means v := by
  have hcomposes : ComposesAs tokens (.value v) := composes_of_written h
  obtain ⟨n, hn, hmeans⟩ := @hcomposes c [] _ true false (show _ ≤ 8 * tokens.length + 8 by omega)
  obtain ⟨t, tokens, rfl, ht⟩ := exists_begins h
  rw [List.append_nil] at hn
  have hcontent : documentContent false (c.before (t :: tokens)) = .ok (n, c.before []) := by
    rw [documentContent, next?_before, ok_bind]
    exact hn
  have hfinish : (c.before []).finish = .ok () := by
    obtain ⟨_, ending, _, _⟩ := c
    subst hending
    rfl
  have hstart : t.isStart = false := by
    cases t <;> first | rfl | cases ht
  refine ⟨n, ?_, hmeans⟩
  rw [document, next?_before, ok_bind]
  simp only [hstart, Bool.false_eq_true, if_false, pure_bind, hcontent, ok_bind, hfinish]
  rfl

end Composer

/-- The node of a whole text. -/
theorem ofTokens_of_written {v : Value} {text : List Char} {tokens : List Token}
    (h : Written (.value v) text tokens) : ∃ n, Node.ofTokens tokens = .ok (some n) ∧ n.Means v :=
  Composer.document_of_written (c := { tokens := [], handles := Composer.defaultHandles }) h rfl

end Yaml
end ApiView
