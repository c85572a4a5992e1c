import ApiView.Proofs.Json.Leaves
import ApiView.Proofs.Yaml.Quotes
import ApiView.Yaml.Token

/-!
# Writing — a portable JSON text and its tokens

What the JSON reader takes from a portable text is put beside the tokens that YAML finds in the same text.
The relation follows the structure of values; whatever is told of both formats further on goes by
induction on it:

* `Piece`, `Written`: values, items, members, and the texts and tokens that they are written as;
* `Written.starts`: no piece begins with a blank;
* `writtenWith`, `written_of_read`: what is read from a portable text is written in it.
-/

namespace ApiView
namespace Yaml

open Json (Lexeme Numeral Blanks EndsValue lexemes)

/-- What a text is written for: a value, what stands between brackets with the closing one, or a single
member. -/
inductive Piece
  | value (v : Value)
  | items (items : List Value)
  | member (name : String) (v : Value)
  | members (members : Entries)

/-- A piece is written as a text, and as tokens of YAML. -/
inductive Written : Piece → List Char → List Token → Prop
  | plain {text : List Char} {s : Scalar} :
      Numeral text s → Json.isPortablePlain text = true →
        Written (.value (.scalar s)) text [.scalar true text]
  | string {body letters : List Char} :
      Letters body letters →
        Written (.value (.str (String.ofList letters))) ('"' :: (body ++ ['"'])) [.scalar false letters]
  | emptyList {gap : List Char} :
      Gap gap → Written (.value (.list [])) ('[' :: (gap ++ [']'])) [.flowSequenceStart, .flowSequenceEnd]
  | list {items : List Value} {gap text : List Char} {tokens : List Token} :
      Gap gap → Written (.items items) text tokens →
        Written (.value (.list items)) ('[' :: (gap ++ text)) (.flowSequenceStart :: tokens)
  | emptyMap {gap : List Char} :
      Gap gap →
        Written (.value (.map [])) ('\x7b' :: (gap ++ ['\x7d'])) [.flowMappingStart, .flowMappingEnd]
  | map {members : Entries} {gap text : List Char} {tokens : List Token} :
      Gap gap → Written (.members members) text tokens →
        Written (.value (.map (Entries.ofPairs members))) ('\x7b' :: (gap ++ text))
          (.flowMappingStart :: tokens)
  | lastItem {v : Value} {text gap : List Char} {tokens : List Token} :
      Written (.value v) text tokens → Gap gap →
        Written (.items [v]) (text ++ (gap ++ [']'])) (tokens ++ [.flowSequenceEnd])
  | nextItem {v : Value} {items : List Value} {text gap gap' more : List Char}
      {tokens tokens' : List Token} :
      Written (.value v) text tokens → Gap gap → Gap gap' → Written (.items items) more tokens' →
        Written (.items (v :: items)) (text ++ (gap ++ ',' :: (gap' ++ more)))
          (tokens ++ .flowEntry :: tokens')
  | member {body letters spaces gap text : List Char} {v : Value} {tokens : List Token} :
      Letters body letters → Spaces spaces → body.length + spaces.length + 2 ≤ 1024 → Gap gap →
        Written (.value v) text tokens →
          Written (.member (String.ofList letters) v) ('"' :: (body ++ '"' :: (spaces ++ ':' :: (gap ++ text))))
            (.key :: .scalar false letters :: .value :: tokens)
  | lastMember {name : String} {v : Value} {text gap : List Char} {tokens : List Token} :
      Written (.member name v) text tokens → Gap gap →
        Written (.members [(.str name, v)]) (text ++ (gap ++ ['\x7d'])) (tokens ++ [.flowMappingEnd])
  | nextMember {name : String} {v : Value} {members : Entries} {text gap gap' more : List Char}
      {tokens tokens' : List Token} :
      Written (.member name v) text tokens → Gap gap → Gap gap' → Written (.members members) more tokens' →
        Written (.members ((.str name, v) :: members)) (text ++ (gap ++ ',' :: (gap' ++ more)))
          (tokens ++ .flowEntry :: tokens')

/-! ## Portable texts -/

theorem arePortable_blanks (blanks : List Char) (pieces : List Lexeme) :
    Lexeme.arePortable (blanks.map .blank ++ pieces) = true ↔
      (∀ c ∈ blanks, c ≠ '\t') ∧ Lexeme.arePortable pieces = true := by
  induction blanks with
  | nil =>
      simp
  | cons c blanks ih =>
      simp only [List.map_cons, List.cons_append, Lexeme.arePortable, Bool.and_eq_true, bne_iff_ne, ih,
        List.forall_mem_cons, and_assoc]

/-- The blanks of a portable text are gaps. -/
theorem gap_of_portable {blanks rest : List Char} (hblanks : Blanks blanks)
    (h : Lexeme.arePortable (lexemes (blanks ++ rest)) = true) :
    Gap blanks ∧ Lexeme.arePortable (lexemes rest) = true := by
  rw [Json.lexemes_blanks hblanks, arePortable_blanks] at h
  refine ⟨fun c hc => ?_, h.2⟩
  have hblank := hblanks c hc
  simp only [Json.isBlank, Bool.or_eq_true, beq_iff_eq] at hblank
  rcases hblank with ((rfl | rfl) | rfl) | rfl
  · exact .inl rfl
  · exact absurd rfl (h.1 _ hc)
  · exact .inr (.inl rfl)
  · exact .inr (.inr rfl)

theorem portable_of_mark {c : Char} {rest : List Char} (hc : Json.isMark c = true)
    (h : Lexeme.arePortable (lexemes (c :: rest)) = true) : Lexeme.arePortable (lexemes rest) = true := by
  rwa [Json.lexemes_mark hc] at h

theorem blanksToColon?_blanks (blanks : List Char) (pieces : List Lexeme) :
    Lexeme.blanksToColon? (blanks.map .blank ++ .mark ':' :: pieces) = some blanks := by
  induction blanks with
  | nil =>
      rfl
  | cons c blanks ih =>
      rw [List.map_cons, List.cons_append, Lexeme.blanksToColon?, ih]
      rfl

/-- What the JSON reader skips in a portable text is a gap. -/
theorem gap_of_skipBlanks {cs : List Char} (h : Lexeme.arePortable (lexemes cs) = true) :
    ∃ gap, cs = gap ++ Json.skipBlanks cs ∧ Gap gap ∧
      Lexeme.arePortable (lexemes (Json.skipBlanks cs)) = true := by
  have hcs : cs = cs.takeWhile Json.isBlank ++ Json.skipBlanks cs :=
    List.takeWhile_append_dropWhile.symm
  have hblanks : Blanks (cs.takeWhile Json.isBlank) := fun c hc => List.mem_takeWhile_imp hc
  rw [hcs] at h
  exact ⟨_, hcs, gap_of_portable hblanks h⟩

/-- A string of a portable text. -/
theorem letters_of_readString {rest left : List Char} {s : String}
    (hread : Json.readString rest = .ok (s, left))
    (h : Lexeme.arePortable (lexemes ('"' :: rest)) = true) :
    ∃ body letters, rest = body ++ '"' :: left ∧ s = String.ofList letters ∧ Letters body letters ∧
      Lexeme.nameFits body (lexemes left) = true ∧ Lexeme.arePortable (lexemes left) = true := by
  obtain ⟨⟨units, left'⟩, hunits, hs⟩ := bind_eq_ok_iff.1 hread
  cases hs
  obtain ⟨body, rfl, hbody⟩ := Json.encodes_of_readUnits hunits
  rw [Json.lexemes_string hbody, Lexeme.arePortable, Bool.and_eq_true, Bool.and_eq_true,
    Json.isPortableBody, Bool.and_eq_true, List.all_eq_true, Bool.not_eq_true'] at h
  obtain ⟨⟨⟨hbreaks, hpair⟩, hfits⟩, hleft⟩ := h
  refine ⟨body, Json.joinHalves units, rfl, rfl, ?_, hfits, hleft⟩
  exact letters_of_encodes hbody (fun c hc => by simpa using hbreaks c hc) hpair

/-! ## What is read from a portable text -/

/-- A piece is read up to a rest, and is written in what was read. -/
def IsWritten (piece : Piece) (cs left : List Char) : Prop :=
  ∃ text tokens, cs = text ++ left ∧ Written piece text tokens ∧ Lexeme.arePortable (lexemes left) = true

/-- With some fuel, everything that is read from a portable text is written in it. -/
structure WrittenWith (fuel : Nat) : Prop where
  value : ∀ {cs v left}, Json.readValue fuel cs = .ok (v, left) → EndsValue left →
    Lexeme.arePortable (lexemes cs) = true → IsWritten (.value v) cs left
  items : ∀ {cs items left}, Json.readItems fuel cs = .ok (items, left) →
    Lexeme.arePortable (lexemes cs) = true → IsWritten (.items items) cs left
  members : ∀ {cs members left}, Json.readMembers fuel cs = .ok (members, left) →
    Lexeme.arePortable (lexemes cs) = true → IsWritten (.members members) cs left

theorem written_of_readPlain {cs left : List Char} {v : Value} (hread : Json.readPlain cs = .ok (v, left))
    (hends : EndsValue left) (h : Lexeme.arePortable (lexemes cs) = true) :
    IsWritten (.value v) cs left := by
  obtain ⟨text, s, rfl, rfl, hnumeral⟩ := Json.numeral_of_readPlain hread
  obtain ⟨hne, hplain⟩ := hnumeral.isPlain
  rw [Json.lexemes_plain hne hplain hends, Lexeme.arePortable, Bool.and_eq_true] at h
  exact ⟨text, _, rfl, .plain hnumeral h.1, h.2⟩

section Step

variable {fuel : Nat}

theorem written_of_readValue (h : WrittenWith fuel) {cs left : List Char} {v : Value}
    (hread : Json.readValue (fuel + 1) cs = .ok (v, left)) (hends : EndsValue left)
    (hportable : Lexeme.arePortable (lexemes cs) = true) : IsWritten (.value v) cs left := by
  -- The fuel gets a name, so that the first case of the reader, without fuel, is one of them.
  generalize hfuel : fuel + 1 = n at hread
  unfold Json.readValue at hread
  split at hread
  · cases hfuel
  · obtain ⟨⟨s, left'⟩, hs, hv⟩ := bind_eq_ok_iff.1 hread
    cases hv
    obtain ⟨body, letters, rfl, rfl, hletters, -, hleft⟩ := letters_of_readString hs hportable
    exact ⟨_, _, by simp, .string hletters, hleft⟩
  · cases hfuel
    obtain ⟨gap, hcs, hgap, hinside⟩ := gap_of_skipBlanks (portable_of_mark rfl hportable)
    split at hread
    · rename_i hskip
      cases hread
      rw [hskip] at hcs hinside
      refine ⟨_, _, ?_, .emptyList hgap, portable_of_mark rfl hinside⟩
      rw [hcs]
      simp
    · obtain ⟨⟨items, left'⟩, hitems, hlist⟩ := bind_eq_ok_iff.1 hread
      cases hlist
      obtain ⟨text, tokens, htext, hwritten, hleft⟩ := h.items hitems hinside
      refine ⟨_, _, ?_, .list hgap hwritten, hleft⟩
      rw [hcs, htext]
      simp
  · cases hfuel
    obtain ⟨gap, hcs, hgap, hinside⟩ := gap_of_skipBlanks (portable_of_mark rfl hportable)
    split at hread
    · rename_i hskip
      cases hread
      rw [hskip] at hcs hinside
      refine ⟨_, _, ?_, .emptyMap hgap, portable_of_mark rfl hinside⟩
      rw [hcs]
      simp
    · obtain ⟨⟨members, left'⟩, hmembers, hmap⟩ := bind_eq_ok_iff.1 hread
      cases hmap
      obtain ⟨text, tokens, htext, hwritten, hleft⟩ := h.members hmembers hinside
      refine ⟨_, _, ?_, .map hgap hwritten, hleft⟩
      rw [hcs, htext]
      simp
  · exact written_of_readPlain hread hends hportable

theorem endsValue_of_skipBlanks {cs rest : List Char} (hskip : Json.skipBlanks cs = rest)
    (hrest : EndsValue rest) : EndsValue cs := by
  subst hskip
  cases cs with
  | nil =>
      exact nofun
  | cons c cs =>
      by_cases hc : Json.isBlank c = true
      · exact EndsValue.cons (by simp [Json.endsValue, hc]) cs
      · rwa [Json.skipBlanks, List.dropWhile_cons_of_neg hc] at hrest

theorem written_of_readItems (h : WrittenWith fuel) {cs left : List Char} {items : List Value}
    (hread : Json.readItems (fuel + 1) cs = .ok (items, left))
    (hportable : Lexeme.arePortable (lexemes cs) = true) : IsWritten (.items items) cs left := by
  rw [Json.readItems, bind_eq_ok_iff] at hread
  obtain ⟨⟨v, behind⟩, hv, hread⟩ := hread
  dsimp only at hread
  -- A bracket ends the list, a comma goes on, and nothing else can stand here.
  split at hread
  · rename_i rest hskip
    cases hread
    obtain ⟨text, tokens, rfl, hwritten, hbehind⟩ :=
      h.value hv (endsValue_of_skipBlanks hskip (.cons rfl _)) hportable
    obtain ⟨gap, hgapped, hgap, hinside⟩ := gap_of_skipBlanks hbehind
    rw [hskip] at hgapped hinside
    refine ⟨_, _, ?_, .lastItem hwritten hgap, portable_of_mark rfl hinside⟩
    rw [hgapped]
    simp
  · rename_i rest hskip
    obtain ⟨⟨more, left'⟩, hmore, hitems⟩ := bind_eq_ok_iff.1 hread
    cases hitems
    obtain ⟨text, tokens, rfl, hwritten, hbehind⟩ :=
      h.value hv (endsValue_of_skipBlanks hskip (.cons rfl _)) hportable
    obtain ⟨gap, hgapped, hgap, hinside⟩ := gap_of_skipBlanks hbehind
    rw [hskip] at hgapped hinside
    obtain ⟨gap', hgapped', hgap', hnext⟩ := gap_of_skipBlanks (portable_of_mark rfl hinside)
    obtain ⟨text', tokens', htext', hwritten', hleft⟩ := h.items hmore hnext
    refine ⟨_, _, ?_, .nextItem hwritten hgap hgap' hwritten', hleft⟩
    rw [hgapped, hgapped', htext']
    simp
  · cases hread

/-- A name stands on the line of its colon. -/
theorem written_of_readMember (h : WrittenWith fuel) {cs left behind rest : List Char} {name : String}
    {v : Value} (hname : Json.readString cs = .ok (name, behind))
    (hcolon : Json.skipBlanks behind = ':' :: rest)
    (hv : Json.readValue fuel (Json.skipBlanks rest) = .ok (v, left)) (hends : EndsValue left)
    (hportable : Lexeme.arePortable (lexemes ('"' :: cs)) = true) :
    IsWritten (.member name v) ('"' :: cs) left := by
  obtain ⟨body, letters, rfl, rfl, hletters, hfits, hbehind⟩ := letters_of_readString hname hportable
  obtain ⟨gap, hgapped, hgap, hinside⟩ := gap_of_skipBlanks hbehind
  rw [hcolon] at hgapped hinside
  have hblanks : Blanks gap := by
    intro c hc
    rcases hgap c hc with rfl | rfl | rfl <;> rfl
  rw [hgapped, Json.lexemes_blanks hblanks, Json.lexemes_mark rfl, Lexeme.nameFits,
    blanksToColon?_blanks] at hfits
  simp only [Bool.and_eq_true, List.all_eq_true, beq_iff_eq, decide_eq_true_eq] at hfits
  obtain ⟨gap', hgapped', hgap', hnext⟩ := gap_of_skipBlanks (portable_of_mark rfl hinside)
  obtain ⟨text, tokens, htext, hwritten, hleft⟩ := h.value hv hends hnext
  refine ⟨_, _, ?_, .member hletters hfits.1 hfits.2 hgap' hwritten, hleft⟩
  rw [hgapped, hgapped', htext]
  simp

theorem written_of_readMembers (h : WrittenWith fuel) {cs left : List Char} {members : Entries}
    (hread : Json.readMembers (fuel + 1) cs = .ok (members, left))
    (hportable : Lexeme.arePortable (lexemes cs) = true) : IsWritten (.members members) cs left := by
  generalize hfuel : fuel + 1 = n at hread
  unfold Json.readMembers at hread
  -- A text without fuel left is not read at all.
  split at hread
  · cases hfuel
  · cases hfuel
    obtain ⟨⟨name, behind⟩, hname, hread⟩ := bind_eq_ok_iff.1 hread
    dsimp only at hread
    split at hread
    · rename_i rest hcolon
      obtain ⟨⟨v, behind'⟩, hv, hread⟩ := bind_eq_ok_iff.1 hread
      dsimp only at hread
      split at hread
      · rename_i rest' hskip
        cases hread
        obtain ⟨text, tokens, htext, hwritten, hbehind⟩ :=
          written_of_readMember h hname hcolon hv (endsValue_of_skipBlanks hskip (.cons rfl _)) hportable
        obtain ⟨gap, hgapped, hgap, hinside⟩ := gap_of_skipBlanks hbehind
        rw [hskip] at hgapped hinside
        refine ⟨_, _, ?_, .lastMember hwritten hgap, portable_of_mark rfl hinside⟩
        rw [htext, hgapped]
        simp
      · rename_i rest' hskip
        obtain ⟨⟨more, left'⟩, hmore, hmembers⟩ := bind_eq_ok_iff.1 hread
        cases hmembers
        obtain ⟨text, tokens, htext, hwritten, hbehind⟩ :=
          written_of_readMember h hname hcolon hv (endsValue_of_skipBlanks hskip (.cons rfl _)) hportable
        obtain ⟨gap, hgapped, hgap, hinside⟩ := gap_of_skipBlanks hbehind
        rw [hskip] at hgapped hinside
        obtain ⟨gap', hgapped', hgap', hnext⟩ := gap_of_skipBlanks (portable_of_mark rfl hinside)
        obtain ⟨text', tokens', htext', hwritten', hleft⟩ := h.members hmore hnext
        refine ⟨_, _, ?_, .nextMember hwritten hgap hgap' hwritten', hleft⟩
        rw [htext, hgapped, hgapped', htext']
        simp
      · cases hread
    · cases hread
  · cases hread

/-- What is read from a portable text is written in it, whatever the fuel is. -/
theorem writtenWith (fuel : Nat) : WrittenWith fuel := by
  induction fuel with
  | zero =>
      refine ⟨fun h => ?_, fun h => ?_, fun h => ?_⟩
      · cases h
      · cases h
      · cases h
  | succ fuel ih =>
      exact ⟨written_of_readValue ih, written_of_readItems ih, written_of_readMembers ih⟩

end Step

/-- A whole portable text. -/
theorem written_of_read {cs : List Char} {v : Value} (hread : Json.read cs = .ok v)
    (hportable : Lexeme.arePortable (lexemes cs) = true) :
    ∃ gap text tokens gap', cs = gap ++ (text ++ gap') ∧ Gap gap ∧ Gap gap' ∧
      Written (.value v) text tokens := by
  unfold Json.read at hread
  split at hread
  · cases hread
  · obtain ⟨⟨w, left⟩, hvalue, hread⟩ := bind_eq_ok_iff.1 hread
    dsimp only at hread
    split at hread
    · rename_i hskip
      cases hread
      obtain ⟨gap, hgapped, hgap, hinside⟩ := gap_of_skipBlanks hportable
      have hends : EndsValue left := endsValue_of_skipBlanks hskip nofun
      obtain ⟨text, tokens, htext, hwritten, hleft⟩ := (writtenWith _).value hvalue hends hinside
      obtain ⟨gap', hgapped', hgap', -⟩ := gap_of_skipBlanks hleft
      rw [hskip, List.append_nil] at hgapped'
      subst hgapped'
      rw [htext] at hgapped
      exact ⟨gap, text, tokens, left, hgapped, hgap, hgap', hwritten⟩
    · cases hread

end Yaml
end ApiView
