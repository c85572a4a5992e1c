import Mathlib.Logic.Relation
import ApiView.Proofs.Yaml.Gaps
import ApiView.Proofs.Yaml.Numbers
import ApiView.Proofs.Yaml.Writing

/-!
# Scanning — the tokens of a portable JSON text

Between brackets indentation does not count, so the scanner goes from token to token.  One lemma says
what a step does in front of each kind of token; the tokens of a piece are found by going through the
piece:

* `At`: what is known of a scan that has got to some place;
* `step_open`, `step_close`, `step_comma`, `step_string`, `step_colon`, `step_plain`: single steps;
* `scans_of_written`: the tokens of a piece;
* `scan_of_written`: the tokens of a whole text.
-/

namespace ApiView
namespace Yaml

namespace Scanner

variable {s s' : Scanner} {depth : Nat} {tokens : List Token} {gap cs left : List Char} {x : Char}

/-! ## Where a scan is -/

/-- A scan has got to a place: so many brackets are open, these tokens are found, latest first, no block is
open and no key has to follow.  A part of the gap in front of what is left may be skipped already. -/
structure At (s : Scanner) (depth : Nat) (tokens : List Token) (left : List Char) : Prop where
  depth : s.depth = depth
  tokens : s.tokens = tokens
  indent : s.indent = -1
  indents : s.indents = []
  optional : ∀ entry ∈ s.possibleKeys, entry.2.required = false
  left : ∃ skipped, Gap skipped ∧ left = skipped ++ s.cursor.rest

theorem At.inFlow (h : At s (depth + 1) tokens left) : s.inFlow = true := by
  rw [Scanner.inFlow, h.depth]
  rfl

/-- What is not skipped yet of a gap that ends firmly. -/
theorem At.exists_behind {tail : List Char} (h : At s depth tokens (gap ++ tail)) (htail : Firm tail) :
    ∃ skipped behind, gap = skipped ++ behind ∧ s.cursor.rest = behind ++ tail := by
  obtain ⟨skipped, hskipped, hleft⟩ := h.left
  rcases List.append_eq_append_iff.1 hleft with ⟨more, rfl, hmore⟩ | ⟨behind, rfl, hrest⟩
  · cases more with
    | nil =>
        exact ⟨gap, [], (List.append_nil gap).symm, hmore.symm⟩
    | cons y more =>
        -- A firm character cannot have been skipped.
        have hfirm := htail.head y (by rw [hmore]; rfl)
        rcases hskipped y (by simp) with rfl | rfl | rfl
        · exact absurd rfl hfirm.space
        · cases hfirm.unbroken
        · cases hfirm.unbroken
  · exact ⟨skipped, behind, rfl, hrest⟩

/-! ## In front of a token -/

/-- A scan after the gap in front of a token, with what the scanner does before it looks at the token. -/
structure Prepared (s s' : Scanner) (behind : List Char) : Prop where
  settled : s.skipToToken.dropStale = .ok s'
  unwound : s'.unwind s'.cursor.column = s'
  cursor : s'.cursor = s.cursor.advanceBy behind.length
  keyAllowed : s.keyAllowed = true → s'.keyAllowed = true
  possibleKeys : s'.possibleKeys = s.possibleKeys.filter fun (_, k) => !s'.isStale k

/-- Which keys are possible does not matter, if none is required. -/
theorem At.withKeys (h : At s depth tokens left) {keys : List (Nat × PossibleKey)}
    (hkeys : ∀ entry ∈ keys, entry.2.required = false) :
    At { s with possibleKeys := keys } depth tokens left :=
  ⟨h.depth, h.tokens, h.indent, h.indents, hkeys, h.left⟩

theorem At.unwind (h : At s depth tokens left) (column : Int) : s.unwind column = s := by
  unfold Scanner.unwind
  rw [h.indents]
  split <;> rfl

/-- Stale keys are forgotten without a complaint, since none is required. -/
theorem At.dropStale (h : At s depth tokens left) :
    s.dropStale = .ok { s with possibleKeys := s.possibleKeys.filter fun (_, k) => !s.isStale k } := by
  refine if_neg ?_
  rw [List.any_eq_true]
  rintro ⟨⟨number, k⟩, hentry, hrequired⟩
  have hoptional : k.required = false := h.optional (number, k) hentry
  dsimp only at hrequired
  rw [hoptional, Bool.and_false] at hrequired
  cases hrequired

/-- Skipping a gap leaves a scanner at the next token. -/
theorem At.exists_prepared {tail : List Char} (h : At s depth tokens (gap ++ tail)) (hgap : Gap gap)
    (htail : Firm tail) :
    ∃ s' behind, Prepared s s' behind ∧ s.cursor.rest = behind ++ tail ∧ At s' depth tokens tail ∧
      s'.cursor.rest = tail := by
  obtain ⟨skipped, behind, rfl, hrest⟩ := h.exists_behind htail
  have hbehind : Gap behind := fun c hc => hgap c (List.mem_append_right _ hc)
  -- No byte order mark stands here, so nothing but the gap is skipped.
  have hpeek : (s.cursor.peek == '\ufeff') = false := by
    have hno : s.cursor.peek ≠ '\ufeff' := by
      refine Cursor.peek_of_all (p := (· ≠ '\ufeff')) (by decide) ?_
      rw [hrest]
      cases behind with
      | nil =>
          exact fun y hy => (htail.head y hy).byteOrderMark
      | cons z behind =>
          intro y hy
          cases hy
          rcases hbehind z List.mem_cons_self with rfl | rfl | rfl <;> decide
    simpa using hno
  have hfuel : behind.length < s.cursor.rest.length + 1 := by
    rw [hrest, List.length_append]
    omega
  obtain ⟨k, hskip, hk⟩ := skipBlanks_of_gap hrest hbehind htail hfuel
  have hskipped : s.skipToToken = { s with cursor := s.cursor.advanceBy behind.length, keyAllowed := k } := by
    rw [skipToToken, hpeek, Bool.and_false]
    exact hskip
  have hafter := Cursor.rest_advanceBy_append hrest
  have hat : At s.skipToToken depth tokens tail := by
    rw [hskipped]
    exact ⟨h.depth, h.tokens, h.indent, h.indents, h.optional, [], nofun, hafter.symm⟩
  -- No key is required here, so those that are too far back are forgotten without a fault.
  have hdrop := hat.dropStale
  have hkeys : ∀ entry ∈ s.skipToToken.possibleKeys.filter fun (_, k) => !s.skipToToken.isStale k,
      entry.2.required = false :=
    fun entry hentry => hat.optional entry (List.mem_filter.1 hentry).1
  have hat' := hat.withKeys hkeys
  rw [hskipped] at hdrop hat'
  exact ⟨_, behind, ⟨by rw [hskipped]; exact hdrop, hat'.unwind _, rfl, hk, rfl⟩, hrest, hat', hafter⟩

/-! ## Keys -/

theorem At.dropKey (h : At s depth tokens left) :
    ∃ keys, s.dropKey = .ok { s with possibleKeys := keys } ∧
      ∀ entry ∈ keys, entry.2.required = false := by
  unfold Scanner.dropKey
  cases hlookup : s.possibleKeys.lookup s.depth with
  | none =>
      exact ⟨s.possibleKeys, rfl, h.optional⟩
  | some k =>
      obtain ⟨before, after, hkeys, -⟩ := List.lookup_eq_some_iff.1 hlookup
      have hoptional := h.optional (s.depth, k) (by rw [hkeys]; simp)
      dsimp only at hoptional ⊢
      rw [hoptional]
      exact ⟨_, rfl, fun entry hentry => h.optional entry (List.mem_of_mem_filter hentry)⟩

/-- The token at a cursor as a possible key. -/
def keyAt (s : Scanner) : PossibleKey where
  number := s.tokens.length
  required := false
  index := s.cursor.index
  line := s.cursor.line
  column := s.cursor.column

theorem At.saveKey (h : At s depth tokens left) :
    ∃ keys, s.saveKey = .ok { s with possibleKeys := keys } ∧
      (∀ entry ∈ keys, entry.2.required = false) ∧
        (s.keyAllowed = true → ∃ others, keys = (s.depth, s.keyAt) :: others) := by
  unfold Scanner.saveKey
  split
  · obtain ⟨keys, hkeys, hoptional⟩ := h.dropKey
    -- Nothing is indented by less than nothing.
    have hrequired : (!s.inFlow && s.indent == (s.cursor.column : Int)) = false := by
      rw [h.indent]
      have hne : ((-1 : Int) == (s.cursor.column : Int)) = false := by
        rw [beq_eq_false_iff_ne]
        omega
      rw [hne, Bool.and_false]
    rw [hkeys, ok_bind]
    have hflow : (!Scanner.inFlow { s with possibleKeys := keys } &&
        s.indent == (s.cursor.column : Int)) = false := hrequired
    refine ⟨(s.depth, s.keyAt) :: keys, ?_, List.forall_mem_cons.2 ⟨rfl, hoptional⟩, fun _ => ⟨keys, rfl⟩⟩
    simp only [hflow]
    rfl
  · rename_i hkey
    exact ⟨s.possibleKeys, rfl, h.optional, fun hallowed => absurd hallowed hkey⟩

/-! ## Single steps -/

/-- A step that uses up some of the text. -/
def Advances (s s' : Scanner) : Prop :=
  s.step = .ok s' ∧ s'.cursor.rest.length < s.cursor.rest.length

/-- A step that moves the cursor advances the scan. -/
theorem advances_of_step {behind : List Char} (hstep : s.step = .ok s')
    (hbehind : s.cursor.rest = behind ++ x :: cs) (hrest : s'.cursor.rest.length ≤ cs.length) :
    Advances s s' := by
  refine ⟨hstep, ?_⟩
  rw [hbehind, List.length_append, List.length_cons]
  omega

theorem rest_behind (hrest : s.cursor.rest = x :: cs) : (s.cursor.advanceBy 1).rest = cs := by
  rw [Cursor.rest_advanceBy, hrest]
  rfl

/-- An opening bracket. -/
theorem step_open {opening : Token} (h : At s depth tokens (gap ++ x :: cs)) (hgap : Gap gap)
    (hx : x = '[' ∧ opening = .flowSequenceStart ∨ x = '\x7b' ∧ opening = .flowMappingStart) :
    ∃ s', Advances s s' ∧ At s' (depth + 1) (opening :: tokens) cs ∧ s'.keyAllowed = true := by
  have hfirm : isFirm x = true := by
    rcases hx with ⟨rfl, -⟩ | ⟨rfl, -⟩ <;> rfl
  obtain ⟨s', behind, hprepared, hbehind, hat, hrest⟩ := h.exists_prepared hgap (.cons hfirm cs)
  obtain ⟨keys, hkeys, hoptional, -⟩ := hat.saveKey
  have hstep : s.step = s'.openFlow opening := by
    unfold step
    rw [hprepared.settled, ok_bind]
    simp only [hprepared.unwound, Cursor.peek_cons hrest]
    rcases hx with ⟨rfl, rfl⟩ | ⟨rfl, rfl⟩ <;> rfl
  have hopened : s'.openFlow opening = .ok { s' with
      cursor := s'.cursor.advanceBy 1, tokens := opening :: s'.tokens, depth := s'.depth + 1
      keyAllowed := true, possibleKeys := keys } := by
    rw [openFlow, hkeys]
    rfl
  have hafter := rest_behind hrest
  refine ⟨_, advances_of_step (hstep.trans hopened) hbehind (by simp only [hafter, Nat.le_refl]), ?_, rfl⟩
  exact ⟨congrArg (· + 1) hat.depth, congrArg (opening :: ·) hat.tokens, hat.indent, hat.indents,
    hoptional, [], nofun, hafter.symm⟩

/-- A closing bracket. -/
theorem step_close {closing : Token} (h : At s (depth + 1) tokens (gap ++ x :: cs)) (hgap : Gap gap)
    (hx : x = ']' ∧ closing = .flowSequenceEnd ∨ x = '\x7d' ∧ closing = .flowMappingEnd) :
    ∃ s', Advances s s' ∧ At s' depth (closing :: tokens) cs := by
  have hfirm : isFirm x = true := by
    rcases hx with ⟨rfl, -⟩ | ⟨rfl, -⟩ <;> rfl
  obtain ⟨s', behind, hprepared, hbehind, hat, hrest⟩ := h.exists_prepared hgap (.cons hfirm cs)
  obtain ⟨keys, hkeys, hoptional⟩ := hat.dropKey
  have hstep : s.step = s'.closeFlow closing := by
    unfold step
    rw [hprepared.settled, ok_bind]
    simp only [hprepared.unwound, Cursor.peek_cons hrest]
    rcases hx with ⟨rfl, rfl⟩ | ⟨rfl, rfl⟩ <;> rfl
  have hclosed : s'.closeFlow closing = .ok { s' with
      cursor := s'.cursor.advanceBy 1, tokens := closing :: s'.tokens, depth := s'.depth - 1
      keyAllowed := false, possibleKeys := keys } := by
    have hinside : (s'.depth == 0) = false := by
      rw [hat.depth]
      rfl
    rw [closeFlow, hkeys, ok_bind]
    simp only [hinside, Bool.false_eq_true, if_false]
    rfl
  have hafter := rest_behind hrest
  refine ⟨_, advances_of_step (hstep.trans hclosed) hbehind (by simp only [hafter, Nat.le_refl]), ?_⟩
  exact ⟨congrArg (· - 1) hat.depth, congrArg (closing :: ·) hat.tokens, hat.indent, hat.indents,
    hoptional, [], nofun, hafter.symm⟩

/-- A comma.  A key may follow it. -/
theorem step_comma (h : At s depth tokens (gap ++ ',' :: cs)) (hgap : Gap gap) :
    ∃ s', Advances s s' ∧ At s' depth (.flowEntry :: tokens) cs ∧ s'.keyAllowed = true := by
  obtain ⟨s', behind, hprepared, hbehind, hat, hrest⟩ := h.exists_prepared hgap (.cons rfl _)
  have hready : At { s' with keyAllowed := true } depth tokens (',' :: cs) :=
    ⟨hat.depth, hat.tokens, hat.indent, hat.indents, hat.optional, hat.left⟩
  obtain ⟨keys, hkeys, hoptional⟩ := hready.dropKey
  have hstep : s.step = s'.entryInFlow := by
    unfold step
    rw [hprepared.settled, ok_bind]
    simp only [hprepared.unwound, Cursor.peek_cons hrest]
    rfl
  have hentry : s'.entryInFlow = .ok { s' with
      cursor := s'.cursor.advanceBy 1, tokens := .flowEntry :: s'.tokens
      keyAllowed := true, possibleKeys := keys } := by
    rw [entryInFlow, hkeys]
    rfl
  have hafter := rest_behind hrest
  refine ⟨_, advances_of_step (hstep.trans hentry) hbehind (by simp only [hafter, Nat.le_refl]), ?_, rfl⟩
  exact ⟨hat.depth, congrArg (.flowEntry :: ·) hat.tokens, hat.indent, hat.indents, hoptional, [], nofun,
    hafter.symm⟩

/-- The last token may be a key: it is the first of the possible ones at this depth, begins on this line,
and begins so many characters before the cursor. -/
structure MayBeKey (s : Scanner) (length : Nat) : Prop where
  keys : ∃ k others, s.possibleKeys = (s.depth, k) :: others ∧ k.number + 1 = s.tokens.length ∧
    k.line = s.cursor.line ∧ s.cursor.index = k.index + length

/-- A text in double quotes.  Where a key may stand, it may be one. -/
theorem step_string {body letters : List Char} (hletters : Letters body letters)
    (h : At s depth tokens (gap ++ '"' :: (body ++ '"' :: left))) (hgap : Gap gap) :
    ∃ s', Advances s s' ∧ At s' depth (.scalar false letters :: tokens) left ∧ s'.cursor.rest = left ∧
      (s.keyAllowed = true → MayBeKey s' (body.length + 2)) := by
  obtain ⟨s', behind, hprepared, hbehind, hat, hrest⟩ := h.exists_prepared hgap (.cons rfl _)
  obtain ⟨keys, hkeys, hoptional, hfirst⟩ := hat.saveKey
  have hstep : s.step = s'.quotedScalar true := by
    unfold step
    rw [hprepared.settled, ok_bind]
    simp only [hprepared.unwound, Cursor.peek_cons hrest]
    rfl
  have hread := Quoted.read_of_letters hletters hrest
  have hscalar : s'.quotedScalar true = .ok { s' with
      cursor := s'.cursor.advanceBy (body.length + 2), tokens := .scalar false letters :: s'.tokens
      keyAllowed := false, possibleKeys := keys } := by
    rw [quotedScalar, node, hkeys, ok_bind]
    dsimp only
    rw [hread]
    rfl
  have hsplit : s'.cursor.rest = '"' :: (body ++ ['"']) ++ left := by
    rw [hrest]
    simp
  have hlength : ('"' :: (body ++ ['"'])).length = body.length + 2 := by simp
  have hafter : (s'.cursor.advanceBy (body.length + 2)).rest = left := by
    rw [← hlength]
    exact Cursor.rest_advanceBy_append hsplit
  refine ⟨_, advances_of_step (hstep.trans hscalar) hbehind ?_, ?_, hafter, fun hallowed => ?_⟩
  · simp only [hafter, List.length_append, List.length_cons]
    omega
  · exact ⟨hat.depth, congrArg (.scalar false letters :: ·) hat.tokens, hat.indent, hat.indents, hoptional,
      [], nofun, hafter.symm⟩
  · obtain ⟨others, hothers⟩ := hfirst (hprepared.keyAllowed hallowed)
    have hline : ∀ c ∈ '"' :: (body ++ ['"']), isBreak c = false := by
      refine List.forall_mem_cons.2 ⟨rfl, fun c hc => ?_⟩
      rcases List.mem_append.1 hc with hc | hc
      · exact hletters.unbroken c hc
      · rw [List.mem_singleton.1 hc]
        rfl
    obtain ⟨hindex, hsame⟩ := Cursor.advanceBy_of_unbroken hsplit hline
    rw [hlength] at hindex hsame
    exact ⟨s'.keyAt, others, hothers, rfl, hsame.symm, hindex⟩

/-- A colon on the line of a possible key that is not too far away.  The mark of the key goes in front of
it. -/
theorem step_colon {scalar : Token} {spaces : List Char} {length : Nat}
    (h : At s (depth + 1) (scalar :: tokens) (spaces ++ ':' :: cs))
    (hrest : s.cursor.rest = spaces ++ ':' :: cs) (hspaces : Spaces spaces) (hkey : MayBeKey s length)
    (hnear : length + spaces.length ≤ 1024) :
    ∃ s', Advances s s' ∧ At s' (depth + 1) (.value :: scalar :: .key :: tokens) cs := by
  obtain ⟨s', behind, hprepared, hbehind, hat, hrest'⟩ :=
    h.exists_prepared hspaces.gap (.cons rfl cs)
  obtain rfl : spaces = behind := List.append_cancel_right (hrest.symm.trans hbehind)
  -- The scalar was saved as a possible key when it was scanned.
  obtain ⟨k, others, hkeys, hnumber, hline, hindex⟩ := hkey.keys
  have hunbroken : ∀ c ∈ spaces, isBreak c = false := by
    intro c hc
    rw [hspaces c hc]
    rfl
  obtain ⟨hindex', hline'⟩ := Cursor.advanceBy_of_unbroken hrest hunbroken
  have hfresh : s'.isStale k = false := by
    rw [isStale, hprepared.cursor, hindex', hline', hline, hindex]
    simp only [bne_self_eq_false, Bool.false_or, decide_eq_false_iff_not]
    omega
  have hdepth : s'.depth = s.depth := hat.depth.trans h.depth.symm
  have hlookup : s'.possibleKeys.lookup s'.depth = some k := by
    rw [hprepared.possibleKeys, hkeys, List.filter_cons_of_pos (by simp [hfresh]), hdepth,
      List.lookup_cons_self]
  have hinserted : s'.tokens.length - k.number = 1 := by
    have htokens := congrArg List.length (hat.tokens.trans h.tokens.symm)
    omega
  have hstep : s.step = s'.colon := by
    unfold step
    rw [hprepared.settled, ok_bind]
    simp only [hprepared.unwound, Cursor.peek_cons hrest', hat.inFlow]
    rfl
  have hcolon : s'.colon = .ok { s' with
      cursor := s'.cursor.advanceBy 1, tokens := .value :: scalar :: .key :: tokens
      keyAllowed := false
      possibleKeys := s'.possibleKeys.filter fun (d, _) => d != s'.depth } := by
    have hflow : ∀ keys tokens, Scanner.inFlow { s' with possibleKeys := keys, tokens := tokens } = true :=
      fun _ _ => hat.inFlow
    unfold colon
    rw [hlookup]
    simp only [insertAt, hinserted, hflow, if_true]
    rw [hat.tokens]
    rfl
  have hafter := rest_behind hrest'
  refine ⟨_, advances_of_step (hstep.trans hcolon) hbehind (by simp only [hafter, Nat.le_refl]), ?_⟩
  exact ⟨hat.depth, rfl, hat.indent, hat.indents,
    fun entry hentry => hat.optional entry (List.mem_of_mem_filter hentry), [], nofun, hafter.symm⟩

/-- A plain scalar of JSON begins with a digit, the letter of a word, or a minus and a digit. -/
def StartsPlain (y : Char) (more : List Char) : Prop :=
  y ∈ "0123456789tfn".toList ∨ y = '-' ∧ ∃ d more', more = d :: more' ∧ d ∈ "0123456789".toList

/-- A text that begins so. -/
def BeginsPlain (text : List Char) : Prop :=
  ∃ y more, text = y :: more ∧ StartsPlain y more

theorem isGap_of_mem {d : Char} (hd : d ∈ "0123456789".toList) : isGap d = false := by
  have hall : "0123456789".toList.all (!isGap ·) = true := by decide
  simpa using List.all_eq_true.1 hall d hd

/-- A plain scalar begins where one is written. -/
theorem beginsPlain_of_cursor {y : Char} {more : List Char} (hrest : s.cursor.rest = y :: more ++ cs)
    (hy : StartsPlain y more) : s.beginsPlain = true := by
  unfold beginsPlain
  rw [Cursor.peek_cons hrest]
  rcases hy with hy | ⟨rfl, d, more', rfl, hd⟩
  · have hletter : ∀ y ∈ "0123456789tfn".toList,
        (!(isGap y || "-?:,[]\x7b\x7d#&*!|>'\"%@`".toList.contains y)) = true :=
      List.all_eq_true.1 (by decide)
    dsimp only
    rw [hletter y hy, Bool.true_or]
  · have hpeek : s.cursor.peek 1 = d := by
      unfold Cursor.peek
      rw [hrest]
      rfl
    rw [hpeek, isGap_of_mem hd]
    rfl

/-- Where a word or number of JSON stands, a step reads a plain scalar. -/
theorem step_eq_plainScalar {behind more : List Char} {y : Char} (hprepared : Prepared s s' behind)
    (hrest : s'.cursor.rest = y :: more ++ cs) (hy : StartsPlain y more) : s.step = s'.plainScalar := by
  have hbegins := beginsPlain_of_cursor hrest hy
  unfold step
  rw [hprepared.settled, ok_bind]
  simp only [hprepared.unwound, Cursor.peek_cons hrest]
  rcases hy with hy | ⟨rfl, d, more', rfl, hd⟩
  · -- None of the other tokens begins with a digit or with one of these letters.
    have hother : ∀ y ∈ "0123456789tfn".toList, ([endMark, '%', '-', '.', '[', '\x7b', ']', '\x7d',
        ',', '?', ':', '*', '&', '!', '|', '>', '\'', '"'].all fun z => !(y == z)) = true :=
      List.all_eq_true.1 (by decide)
    have hno := hother y hy
    simp only [List.all_cons, Bool.and_eq_true, Bool.not_eq_true'] at hno
    simp only [hno, Bool.false_and, Bool.false_eq_true, if_false, hbegins, if_true]
  · -- A digit follows the minus, so it neither marks a document nor begins an entry.
    have hminus : d ≠ '-' := by
      rintro rfl
      exact absurd hd (by decide)
    have hpeek : s'.cursor.peek 1 = d := by
      unfold Cursor.peek
      rw [hrest]
      rfl
    have hmark : s'.cursor.atDocumentMark = false := by
      unfold Cursor.atDocumentMark Cursor.ahead
      rw [hrest]
      simp [hminus]
    simp only [hpeek, isGap_of_mem hd, hmark, hbegins, Bool.and_false, Bool.false_eq_true, if_false]
    rfl

/-- A plain scalar between brackets, with the gap behind it. -/
theorem step_plain {text gap' : List Char} (hbegins : BeginsPlain text)
    (hpasses : ∀ c ∈ text, Plain.passes c = true) (hgap' : Gap gap') (hx : Plain.endsPlain x = true)
    (h : At s (depth + 1) tokens (gap ++ (text ++ (gap' ++ x :: cs)))) (hgap : Gap gap) :
    ∃ s', Advances s s' ∧ At s' (depth + 1) (.scalar true text :: tokens) (gap' ++ x :: cs) := by
  obtain ⟨y, more, rfl, hy⟩ := hbegins
  -- The first character of the scalar is none of a gap.
  have hfirst : isFirm y = true := by
    have hall : ∀ y ∈ "0123456789tfn-".toList, isFirm y = true := List.all_eq_true.1 (by decide)
    rcases hy with hy | ⟨rfl, -⟩
    · exact hall y (List.mem_append_left ['-'] hy)
    · exact hall '-' (by decide)
  obtain ⟨s', behind, hprepared, hbehind, hat, hrest⟩ := h.exists_prepared hgap (.cons hfirst _)
  obtain ⟨keys, hkeys, hoptional, -⟩ := hat.saveKey
  have hstep := step_eq_plainScalar hprepared hrest hy
  have hcomment : (y :: more).head? ≠ some '#' := by
    simpa using (FirmChar.of_isFirm hfirst).comment
  obtain ⟨broken, hread⟩ := Plain.read_of_gap s'.indent (by simp) hcomment hpasses hgap' hx hrest
  -- The scalar is read together with the gap behind it.
  have hplain : s'.plainScalar = .ok { s' with
      cursor := s'.cursor.advanceBy ((y :: more).length + gap'.length)
      tokens := .scalar true (y :: more) :: s'.tokens, keyAllowed := broken, possibleKeys := keys } := by
    have hflow : Scanner.inFlow { s' with possibleKeys := keys } = true := hat.inFlow
    rw [plainScalar, hkeys, ok_bind]
    simp only [hflow, hread]
    rfl
  have hafter : (s'.cursor.advanceBy ((y :: more).length + gap'.length)).rest = x :: cs := by
    rw [← Cursor.advanceBy_advanceBy]
    exact Cursor.rest_advanceBy_append (Cursor.rest_advanceBy_append hrest)
  refine ⟨_, advances_of_step (hstep.trans hplain) hbehind ?_, ?_⟩
  · change (s'.cursor.advanceBy ((y :: more).length + gap'.length)).rest.length ≤
      (more ++ (gap' ++ x :: cs)).length
    rw [hafter, List.length_append, List.length_append]
    omega
  · exact ⟨hat.depth, congrArg (.scalar true (y :: more) :: ·) hat.tokens, hat.indent, hat.indents,
      hoptional, gap', hgap', by rw [hafter]⟩

/-! ## Plain scalars of JSON -/

theorem passes_of_portable {text : List Char} (h : Json.isPortablePlain text = true) :
    ∀ c ∈ text, Plain.passes c = true := by
  rw [Json.isPortablePlain, Bool.or_eq_true, Bool.and_eq_true, List.all_eq_true] at h
  rcases h with hword | ⟨hnumber, -⟩
  · have hwords : ∀ word ∈ ["null", "true", "false"], word.toList.all Plain.passes = true := by decide
    have hpasses := hwords _ (List.contains_iff_mem.1 hword)
    rwa [String.toList_ofList, List.all_eq_true] at hpasses
  · intro c hc
    have hkind := hnumber c hc
    simp only [Json.isNumberChar, Bool.or_eq_true, beq_iff_eq] at hkind
    rcases hkind with ((((hc | rfl) | rfl) | rfl) | rfl) | rfl
    · exact Json.of_isDigit (by decide) hc
    all_goals rfl

/-- A numeral with a sign begins a plain scalar. -/
theorem beginsPlain_minus {whole : List Char} (negative : Bool) (hwhole : Json.IsWhole whole)
    (rest : List Char) : BeginsPlain (Json.minus negative ++ (whole ++ rest)) := by
  obtain ⟨d, more, rfl, hd⟩ := head_of_isWhole hwhole
  have hdigit := Json.mem_of_isDigit hd
  cases negative with
  | true =>
      exact ⟨'-', _, rfl, .inr ⟨rfl, d, _, rfl, hdigit⟩⟩
  | false =>
      exact ⟨d, _, rfl, .inl (List.mem_append_left ['t', 'f', 'n'] hdigit)⟩

/-- A portable numeral begins a plain scalar. -/
theorem beginsPlain_of_numeral {text : List Char} {v : Scalar} (h : Json.Numeral text v)
    (hportable : Json.isPortablePlain text = true) : BeginsPlain text := by
  cases h with
  | word hmem =>
      simp only [Json.words, List.mem_cons, List.not_mem_nil, or_false, Prod.mk.injEq] at hmem
      rcases hmem with ⟨rfl, rfl⟩ | ⟨rfl, rfl⟩ | ⟨rfl, rfl⟩ | ⟨rfl, rfl⟩ | ⟨rfl, rfl⟩ | ⟨rfl, rfl⟩
      · exact ⟨'n', _, rfl, .inl (by decide)⟩
      · exact ⟨'t', _, rfl, .inl (by decide)⟩
      · exact ⟨'f', _, rfl, .inl (by decide)⟩
      all_goals exact absurd hportable (by decide)
  | integer negative hwhole _ =>
      have hbegins := beginsPlain_minus negative hwhole []
      rwa [List.append_nil] at hbegins
  | decimal negative hwhole _ _ _ =>
      exact beginsPlain_minus negative hwhole _

/-! ## Pieces -/

/-- Any number of steps. -/
def Reaches : Scanner → Scanner → Prop :=
  Relation.ReflTransGen Advances

/-- A rest that goes on, after a gap, with what may stand behind a value. -/
def Continues (left : List Char) : Prop :=
  ∃ gap x cs, left = gap ++ x :: cs ∧ Gap gap ∧ Plain.endsPlain x = true

theorem Continues.intro {gap cs : List Char} {x : Char} (hgap : Gap gap) (hx : Plain.endsPlain x = true) :
    Continues (gap ++ x :: cs) :=
  ⟨gap, x, cs, rfl, hgap, hx⟩

/-- Wherever a piece is met, its tokens are found.  Items and members end a level of brackets; a name is
found only where a key may stand. -/
def ScansAs (text : List Char) (found : List Token) : Piece → Prop
  | .value _ => ∀ {s depth tokens gap left}, At s (depth + 1) tokens (gap ++ (text ++ left)) → Gap gap →
      Continues left → ∃ s', Reaches s s' ∧ At s' (depth + 1) (found.reverse ++ tokens) left
  | .items _ => ∀ {s depth tokens gap left}, At s (depth + 1) tokens (gap ++ (text ++ left)) → Gap gap →
      ∃ s', Reaches s s' ∧ At s' depth (found.reverse ++ tokens) left
  | .member _ _ => ∀ {s depth tokens gap left}, At s (depth + 1) tokens (gap ++ (text ++ left)) → Gap gap →
      s.keyAllowed = true → Continues left →
        ∃ s', Reaches s s' ∧ At s' (depth + 1) (found.reverse ++ tokens) left
  | .members _ => ∀ {s depth tokens gap left}, At s (depth + 1) tokens (gap ++ (text ++ left)) → Gap gap →
      s.keyAllowed = true → ∃ s', Reaches s s' ∧ At s' depth (found.reverse ++ tokens) left

/-- The tokens that a piece is written as are found, one step after the other. -/
theorem scans_of_written {piece : Piece} {text : List Char} {found : List Token}
    (h : Written piece text found) : ScansAs text found piece := by
  -- The induction is on how a piece is written.  Each case cuts the text in front of the next mark and
  -- lets the scanner take the steps for what stands there.
  induction h with
  | @plain text v hnumeral hportable =>
      intro s depth tokens gap left hat hgap hleft
      -- A plain scalar ends only where something follows it, so what is left has to be known.
      obtain ⟨gap', x, cs, rfl, hgap', hx⟩ := hleft
      obtain ⟨s', hstep, hat'⟩ := step_plain (beginsPlain_of_numeral hnumeral hportable)
        (passes_of_portable hportable) hgap' hx hat hgap
      exact ⟨s', .single hstep, hat'⟩
  | @string body letters hletters =>
      intro s depth tokens gap left hat hgap _
      have hat' : At s (depth + 1) tokens (gap ++ '"' :: (body ++ '"' :: left)) := by
        simpa only [List.cons_append, List.append_assoc, List.nil_append] using hat
      obtain ⟨s', hstep, hat', -⟩ := step_string hletters hat' hgap
      exact ⟨s', .single hstep, hat'⟩
  | @emptyList inside hinside =>
      intro s depth tokens gap left hat hgap _
      have hat' : At s (depth + 1) tokens (gap ++ '[' :: (inside ++ ']' :: left)) := by
        simpa only [List.cons_append, List.append_assoc, List.nil_append] using hat
      obtain ⟨s₁, hopen, hat₁, -⟩ := step_open hat' hgap (.inl ⟨rfl, rfl⟩)
      obtain ⟨s₂, hclose, hat₂⟩ := step_close hat₁ hinside (.inl ⟨rfl, rfl⟩)
      exact ⟨s₂, (Relation.ReflTransGen.single hopen).tail hclose, hat₂⟩
  | @list items inside text found hinside _ ih =>
      intro s depth tokens gap left hat hgap _
      have hat' : At s (depth + 1) tokens (gap ++ '[' :: (inside ++ (text ++ left))) := by
        simpa only [List.cons_append, List.append_assoc] using hat
      obtain ⟨s₁, hopen, hat₁, -⟩ := step_open hat' hgap (.inl ⟨rfl, rfl⟩)
      obtain ⟨s₂, hitems, hat₂⟩ := ih hat₁ hinside
      exact ⟨s₂, .head hopen hitems, by simpa using hat₂⟩
  | @emptyMap inside hinside =>
      intro s depth tokens gap left hat hgap _
      have hat' : At s (depth + 1) tokens (gap ++ '\x7b' :: (inside ++ '\x7d' :: left)) := by
        simpa only [List.cons_append, List.append_assoc, List.nil_append] using hat
      obtain ⟨s₁, hopen, hat₁, -⟩ := step_open hat' hgap (.inr ⟨rfl, rfl⟩)
      obtain ⟨s₂, hclose, hat₂⟩ := step_close hat₁ hinside (.inr ⟨rfl, rfl⟩)
      exact ⟨s₂, (Relation.ReflTransGen.single hopen).tail hclose, hat₂⟩
  | @map members inside text found hinside _ ih =>
      intro s depth tokens gap left hat hgap _
      have hat' : At s (depth + 1) tokens (gap ++ '\x7b' :: (inside ++ (text ++ left))) := by
        simpa only [List.cons_append, List.append_assoc] using hat
      obtain ⟨s₁, hopen, hat₁, hkey⟩ := step_open hat' hgap (.inr ⟨rfl, rfl⟩)
      obtain ⟨s₂, hmembers, hat₂⟩ := ih hat₁ hinside hkey
      exact ⟨s₂, .head hopen hmembers, by simpa using hat₂⟩
  | @lastItem v text behind found _ hbehind ih =>
      intro s depth tokens gap left hat hgap
      have hat' : At s (depth + 1) tokens (gap ++ (text ++ (behind ++ ']' :: left))) := by
        simpa only [List.cons_append, List.append_assoc, List.nil_append] using hat
      obtain ⟨s₁, hvalue, hat₁⟩ := ih hat' hgap (.intro hbehind rfl)
      obtain ⟨s₂, hclose, hat₂⟩ := step_close hat₁ hbehind (.inl ⟨rfl, rfl⟩)
      exact ⟨s₂, hvalue.tail hclose, by simpa using hat₂⟩
  | @nextItem v items text behind behind' more found found' _ hbehind hbehind' _ ih ih' =>
      intro s depth tokens gap left hat hgap
      have hat' : At s (depth + 1) tokens
          (gap ++ (text ++ (behind ++ ',' :: (behind' ++ (more ++ left))))) := by
        simpa only [List.cons_append, List.append_assoc] using hat
      obtain ⟨s₁, hvalue, hat₁⟩ := ih hat' hgap (.intro hbehind rfl)
      obtain ⟨s₂, hcomma, hat₂, -⟩ := step_comma hat₁ hbehind
      obtain ⟨s₃, hitems, hat₃⟩ := ih' hat₂ hbehind'
      exact ⟨s₃, (hvalue.tail hcomma).trans hitems, by simpa using hat₃⟩
  | @member body letters spaces inside text v found hletters hspaces hnear hinside _ ih =>
      intro s depth tokens gap left hat hgap hkey hleft
      have hat' : At s (depth + 1) tokens
          (gap ++ '"' :: (body ++ '"' :: (spaces ++ ':' :: (inside ++ (text ++ left))))) := by
        simpa only [List.cons_append, List.append_assoc] using hat
      obtain ⟨s₁, hname, hat₁, hrest, hmay⟩ := step_string hletters hat' hgap
      -- The name becomes a key at its colon, which is near enough.
      obtain ⟨s₂, hcolon, hat₂⟩ := step_colon hat₁ hrest hspaces (hmay hkey) (by omega)
      obtain ⟨s₃, hvalue, hat₃⟩ := ih hat₂ hinside hleft
      exact ⟨s₃, .head hname (.head hcolon hvalue), by simpa using hat₃⟩
  | @lastMember name v text behind found _ hbehind ih =>
      intro s depth tokens gap left hat hgap hkey
      have hat' : At s (depth + 1) tokens (gap ++ (text ++ (behind ++ '\x7d' :: left))) := by
        simpa only [List.cons_append, List.append_assoc, List.nil_append] using hat
      obtain ⟨s₁, hmember, hat₁⟩ := ih hat' hgap hkey (.intro hbehind rfl)
      obtain ⟨s₂, hclose, hat₂⟩ := step_close hat₁ hbehind (.inr ⟨rfl, rfl⟩)
      exact ⟨s₂, hmember.tail hclose, by simpa using hat₂⟩
  | @nextMember name v members text behind behind' more found found' _ hbehind hbehind' _ ih ih' =>
      intro s depth tokens gap left hat hgap hkey
      have hat' : At s (depth + 1) tokens
          (gap ++ (text ++ (behind ++ ',' :: (behind' ++ (more ++ left))))) := by
        simpa only [List.cons_append, List.append_assoc] using hat
      obtain ⟨s₁, hmember, hat₁⟩ := ih hat' hgap hkey (.intro hbehind rfl)
      obtain ⟨s₂, hcomma, hat₂, hkey₂⟩ := step_comma hat₁ hbehind
      obtain ⟨s₃, hmembers, hat₃⟩ := ih' hat₂ hbehind' hkey₂
      exact ⟨s₃, (hmember.tail hcomma).trans hmembers, by simpa using hat₃⟩

/-! ## Whole texts -/

theorem At.finish (h : At s depth tokens left) :
    ∃ done, s.finish = .ok done ∧ done.tokens = tokens ∧ done.cursor = s.cursor ∧
      At done depth tokens left := by
  obtain ⟨keys, hkeys, -⟩ := h.dropKey
  rw [Scanner.finish, h.unwind, hkeys]
  exact ⟨_, rfl, h.tokens, rfl, h.depth, h.tokens, h.indent, h.indents, nofun, h.left⟩

/-- A scan that has got to the end has found its tokens. -/
theorem run_of_reaches {s' : Scanner} (hreaches : Reaches s s') (hat : At s' depth tokens left)
    (hleft : Gap left) {fuel : Nat} (hfuel : s.cursor.rest.length < fuel) :
    s.run fuel = (tokens.reverse, none) := by
  -- Every step of the row moves the cursor, so the fuel lasts to its end.
  induction hreaches using Relation.ReflTransGen.head_induction_on generalizing fuel with
  | refl =>
      obtain ⟨fuel, rfl⟩ := Nat.exists_eq_succ_of_ne_zero (Nat.ne_of_gt (Nat.zero_lt_of_lt hfuel))
      have hat' : At s' depth tokens (left ++ []) := by rwa [List.append_nil]
      obtain ⟨s'', behind, hprepared, -, hat'', hrest⟩ := hat'.exists_prepared hleft nofun
      obtain ⟨done, hdone, -, hcursor, hat₁⟩ := hat''.finish
      obtain ⟨done', hdone', htokens, -, -⟩ := hat₁.finish
      have hstep : s'.step = .ok done := by
        have hpeek : s''.cursor.peek = endMark := by
          unfold Cursor.peek
          rw [hrest]
          rfl
        unfold step
        rw [hprepared.settled, ok_bind]
        simp only [hprepared.unwound, hpeek]
        exact hdone
      rw [run, hstep]
      simp only [hcursor, hrest, List.isEmpty_nil, if_true, hdone', htokens]
  | @head s₁ s₂ hadvance hreaches ih =>
      obtain ⟨fuel, rfl⟩ := Nat.exists_eq_succ_of_ne_zero (Nat.ne_of_gt (Nat.zero_lt_of_lt hfuel))
      obtain ⟨hstep, hless⟩ := hadvance
      rw [run, hstep]
      dsimp only
      by_cases hempty : s₂.cursor.rest = []
      · -- Nothing is left to go on with, so this is the last step.
        rcases Relation.ReflTransGen.cases_head hreaches with rfl | ⟨s₃, ⟨-, hno⟩, -⟩
        · obtain ⟨done, hdone, htokens, -, -⟩ := hat.finish
          rw [hempty, List.isEmpty_nil, if_pos rfl, hdone]
          simp only [htokens]
        · rw [hempty] at hno
          cases hno
      · rw [if_neg (by simpa using hempty)]
        exact ih (by omega)

/-- A mapping is scanned from the start of a text. -/
theorem exists_reaches_of_map {entries : Entries} {gap text : List Char} {found : List Token}
    (h : Written (.value (.map entries)) text found) (hat : At s 0 [] (gap ++ (text ++ left)))
    (hgap : Gap gap) : ∃ s', Reaches s s' ∧ At s' 0 found.reverse left := by
  cases h with
  | @emptyMap inside hinside =>
      have hat' : At s 0 [] (gap ++ '\x7b' :: (inside ++ '\x7d' :: left)) := by
        simpa only [List.cons_append, List.append_assoc, List.nil_append] using hat
      obtain ⟨s₁, hopen, hat₁, -⟩ := step_open hat' hgap (.inr ⟨rfl, rfl⟩)
      obtain ⟨s₂, hclose, hat₂⟩ := step_close hat₁ hinside (.inr ⟨rfl, rfl⟩)
      exact ⟨s₂, .head hopen (.single hclose), hat₂⟩
  | @map members inside text found hinside hmembers =>
      have hat' : At s 0 [] (gap ++ '\x7b' :: (inside ++ (text ++ left))) := by
        simpa only [List.cons_append, List.append_assoc] using hat
      obtain ⟨s₁, hopen, hat₁, hkey⟩ := step_open hat' hgap (.inr ⟨rfl, rfl⟩)
      obtain ⟨s₂, hfound, hat₂⟩ := scans_of_written hmembers hat₁ hinside hkey
      exact ⟨s₂, .head hopen hfound, by simpa using hat₂⟩

end Scanner

/-- The tokens of a mapping that is written in a text, with gaps around it. -/
theorem scan_of_written {entries : Entries} {gap text gap' : List Char} {found : List Token}
    (hallowed : (Text.codes (gap ++ (text ++ gap'))).all isAllowed = true) (hgap : Gap gap)
    (h : Written (.value (.map entries)) text found) (hgap' : Gap gap') :
    Token.scan (gap ++ (text ++ gap')) = (found, none) := by
  have hstart : Scanner.At { cursor := Cursor.start (gap ++ (text ++ gap')) } 0 []
      (gap ++ (text ++ gap')) :=
    ⟨rfl, rfl, rfl, rfl, nofun, [], nofun, rfl⟩
  obtain ⟨s', hreaches, hat⟩ := Scanner.exists_reaches_of_map h hstart hgap
  rw [Token.scan, if_pos hallowed, ← List.reverse_reverse found]
  exact Scanner.run_of_reaches hreaches hat hgap' (Nat.lt_succ_self _)

end Yaml
end ApiView
