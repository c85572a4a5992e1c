import ApiView.Proofs.Yaml.Positions

/-!
# Quotes — double-quoted scalars

Between double quotes both formats know escapes, and nearly the same ones.  YAML takes blanks and text in
turns, the other reader goes character by character:

* `Letters`: what stands between quotes, and the letters that both formats take it for;
* `letters_of_encodes`: what is portable is taken for the units that JSON reads;
* `Quoted.body_of_letters`: one piece after the other is read in YAML;
* `Quoted.read_of_letters`: a whole scalar.
-/

namespace ApiView
namespace Yaml

/-- What stands between quotes, and the letters that both formats take it for. -/
inductive Letters : List Char → List Char → Prop
  | nil : Letters [] []
  | plain {c : Char} {body letters : List Char} :
      c ≠ '"' → c ≠ '\\' → ¬ c < ' ' → isBreak c = false → Letters body letters →
        Letters (c :: body) (c :: letters)
  | short {c x : Char} {body letters : List Char} :
      c ≠ 'u' → Json.escaped? c = some x → Letters body letters →
        Letters ('\\' :: c :: body) (x :: letters)
  | unit {a b c d : Char} {n : Nat} {body letters : List Char} :
      Text.hexNumber? [a, b, c, d] = some n → Letters body letters →
        Letters ('\\' :: 'u' :: a :: b :: c :: d :: body) (Text.ofUnit n :: letters)

/-- There are no line breaks between quotes. -/
theorem Letters.unbroken {body letters : List Char} (h : Letters body letters) :
    ∀ c ∈ body, isBreak c = false := by
  -- A line break is neither the letter of an escape nor a digit of one.
  have hcases : ∀ c, isBreak c = true → Json.escaped? c = none ∧ (Text.hexValue? c).isSome = false := by
    intro c hc
    simp only [isBreak, Bool.or_eq_true, beq_iff_eq] at hc
    rcases hc with (((rfl | rfl) | rfl) | rfl) | rfl <;> decide
  induction h with
  | nil =>
      exact List.forall_mem_nil _
  | plain _ _ _ hbreak _ ih =>
      exact List.forall_mem_cons.2 ⟨hbreak, ih⟩
  | @short c x body letters _ hx _ ih =>
      refine List.forall_mem_cons.2 ⟨rfl, List.forall_mem_cons.2 ⟨?_, ih⟩⟩
      rw [Bool.eq_false_iff]
      intro hbreak
      cases (hcases c hbreak).1.symm.trans hx
  | @unit a b c d n body letters hn _ ih =>
      have hdigits : ∀ x ∈ [a, b, c, d], isBreak x = false := by
        intro x hx
        rw [Bool.eq_false_iff]
        intro hbreak
        exact absurd ((Json.digits_of_hexNumber? hn).2 x hx) (by simp [(hcases x hbreak).2])
      refine List.forall_mem_cons.2 ⟨rfl, List.forall_mem_cons.2 ⟨rfl, ?_⟩⟩
      intro x hx
      rcases List.mem_append.1 (show x ∈ [a, b, c, d] ++ body from hx) with hx | hx
      · exact hdigits x hx
      · exact ih x hx

/-! ## What JSON reads -/

/-- A unit is joined to nothing unless it is the first half of a pair. -/
theorem joinHalves_cons_of_noPair {n : Nat} {units : List Nat}
    (h : ¬ (Json.isHighHalf n = true ∧ units.head?.any Json.isLowHalf = true)) :
    Json.joinHalves (n :: units) = Text.ofUnit n :: Json.joinHalves units := by
  cases units with
  | nil =>
      rfl
  | cons m units =>
      rw [Json.joinHalves, if_neg]
      simpa [Json.isHighHalf, Json.isLowHalf, and_assoc] using h

/-- A character is no half, so a unit that is one comes from an escape. -/
theorem escapedUnit?_of_lowHalf {body : List Char} {units : List Nat} (h : Json.Encodes body units)
    (hlow : units.head?.any Json.isLowHalf = true) :
    (Json.escapedUnit? body).any Json.isLowHalf = true := by
  have hwhole : ∀ c : Char, Json.isLowHalf c.toNat = false := by
    intro c
    have hhalf := Text.isHalf_toNat c
    simp only [Text.isHalf, Bool.and_eq_false_iff, decide_eq_false_iff_not] at hhalf
    simp only [Json.isLowHalf, Bool.and_eq_false_iff, decide_eq_false_iff_not]
    omega
  cases h with
  | nil =>
      cases hlow
  | plain _ _ _ _ =>
      simp [hwhole] at hlow
  | short _ _ _ =>
      simp [hwhole] at hlow
  | unit hn _ =>
      simpa [Json.escapedUnit?, hn] using hlow

theorem ofUnit_toNat (c : Char) : Text.ofUnit c.toNat = c := by
  rw [Text.ofUnit, Text.isHalf_toNat]
  simp

/-- A character by itself is joined to nothing. -/
theorem joinHalves_toNat (c : Char) (units : List Nat) :
    Json.joinHalves (c.toNat :: units) = c :: Json.joinHalves units := by
  rw [Json.joinHalves_cons_of_whole (Text.isHalf_toNat c), ofUnit_toNat]

/-- What is portable between quotes is taken for the letters that JSON reads. -/
theorem letters_of_encodes {body : List Char} {units : List Nat} (h : Json.Encodes body units)
    (hbreaks : ∀ c ∈ body, isBreak c = false) (hpair : Json.hasPair body = false) :
    Letters body (Json.joinHalves units) := by
  induction h with
  | nil =>
      exact .nil
  | @plain c body units hquote hbackslash hcontrol _ ih =>
      obtain ⟨hc, hbody⟩ := List.forall_mem_cons.1 hbreaks
      rw [Json.hasPair.eq_4 c body (fun _ _ _ _ _ h => absurd h hbackslash)
        (fun _ _ h => absurd h hbackslash)] at hpair
      rw [joinHalves_toNat]
      exact .plain hquote hbackslash hcontrol hc (ih hbody hpair)
  | @short c x body units hletter hx _ ih =>
      have hbody : ∀ c ∈ body, isBreak c = false :=
        fun d hd => hbreaks d (List.mem_cons_of_mem _ (List.mem_cons_of_mem _ hd))
      rw [Json.hasPair.eq_3 c body fun _ _ _ _ _ h => absurd h hletter] at hpair
      rw [joinHalves_toNat]
      exact .short hletter hx (ih hbody hpair)
  | @unit a b c d n body units hn hencodes ih =>
      rw [Json.hasPair, hn, Bool.or_eq_false_iff] at hpair
      have hbody : ∀ c ∈ body, isBreak c = false := fun x hx => hbreaks x (by simp [hx])
      rw [joinHalves_cons_of_noPair]
      · exact .unit hn (ih hbody hpair.2)
      · -- Two escapes that make a pair are what the text is free of.
        rintro ⟨hhigh, hlow⟩
        have hfound := escapedUnit?_of_lowHalf hencodes hlow
        rw [hfound, Option.any_some, hhigh] at hpair
        cases hpair.1

/-! ## Spaces at the start -/

/-- What stands between quotes begins with a row of spaces, perhaps an empty one. -/
theorem Letters.exists_spaces {body letters : List Char} (h : Letters body letters) :
    ∃ spaces more lettersMore, body = spaces ++ more ∧ letters = spaces ++ lettersMore ∧ Spaces spaces ∧
      Letters more lettersMore ∧ more.head? ≠ some ' ' := by
  induction h with
  | nil =>
      exact ⟨[], [], [], rfl, rfl, nofun, .nil, nofun⟩
  | @plain c body letters hquote hbackslash hcontrol hbreak hbody ih =>
      by_cases hc : c = ' '
      · subst hc
        obtain ⟨spaces, more, lettersMore, rfl, rfl, hspaces, hmore, hhead⟩ := ih
        exact ⟨' ' :: spaces, more, lettersMore, rfl, rfl, List.forall_mem_cons.2 ⟨rfl, hspaces⟩, hmore, hhead⟩
      · exact ⟨[], _, _, rfl, rfl, nofun, .plain hquote hbackslash hcontrol hbreak hbody, by simpa using hc⟩
  | short hletter hx hbody _ =>
      exact ⟨[], _, _, rfl, rfl, nofun, .short hletter hx hbody, by simp⟩
  | unit hn hbody _ =>
      exact ⟨[], _, _, rfl, rfl, nofun, .unit hn hbody, by simp⟩

/-- Before the closing quote there is no gap but spaces. -/
theorem Letters.isGap_head {body letters left : List Char} (h : Letters body letters)
    (hhead : body.head? ≠ some ' ') : ∀ x ∈ (body ++ '"' :: left).head?, isGap x = false := by
  intro x hx
  cases h with
  | nil =>
      cases hx
      rfl
  | @plain c body letters hquote hbackslash hcontrol hbreak hbody =>
      cases hx
      have hspace : x ≠ ' ' := fun h => hhead (by rw [h]; rfl)
      have htab : x ≠ '\t' := by
        rintro rfl
        exact hcontrol (by decide)
      have hend : x ≠ endMark := by
        rintro rfl
        exact hcontrol (by decide)
      simp [isGap, isSpaceOrEnd, isBreakOrEnd, hspace, htab, hend, hbreak]
  | short _ _ _ =>
      cases hx
      rfl
  | unit _ _ =>
      cases hx
      rfl

namespace Quoted

variable {c : Cursor} {x : Char} {cs left : List Char}

/-! ## Escapes -/

/-- A short escape stands for the character that it has in JSON. -/
theorem escape_short (hrest : c.rest = x :: cs) {y : Char} (hy : Json.escaped? x = some y) :
    escape c = .ok ([y], c.advance) := by
  -- Every short escape of JSON is one of YAML, for the same character.
  have hlookup : escapes.lookup x = some y := by
    unfold Json.escaped? at hy
    split_ifs at hy with hsame hn hr ht hb hf
    · cases hy
      simp only [Bool.or_eq_true, beq_iff_eq] at hsame
      rcases hsame with (rfl | rfl) | rfl <;> rfl
    · cases hy
      rw [beq_iff_eq.1 hn]
      rfl
    · cases hy
      rw [beq_iff_eq.1 hr]
      rfl
    · cases hy
      rw [beq_iff_eq.1 ht]
      rfl
    · cases hy
      rw [beq_iff_eq.1 hb]
      rfl
    · cases hy
      rw [beq_iff_eq.1 hf]
      rfl
  unfold escape
  simp only [Cursor.peek_cons hrest, hlookup]

theorem letterOfCode_unit {n : Nat} (h : n < 0x10000) : letterOfCode n = .ok [Text.ofUnit n] := by
  have hcode : Text.ofCode n = [Text.ofUnit n] := by
    unfold Text.ofCode Text.ofUnit
    by_cases hhalf : Text.isHalf n = true
    · rw [if_pos hhalf, if_pos hhalf]
    · rw [if_neg hhalf, if_neg hhalf]
      have hbelow : (Char.ofNat n).toNat < Text.halfPlane := by
        by_cases hvalid : n.isValidChar
        · have hvalue : (Char.ofNat n).toNat = n := by
            rw [Char.ofNat, dif_pos hvalid]
            rfl
          rw [hvalue, Text.halfPlane]
          omega
        · rw [Char.ofNat, dif_neg hvalid]
          decide
      exact Text.guarded_of_lt hbelow
  unfold letterOfCode
  rw [if_neg (by omega), if_neg (by omega), hcode]

/-- A numeric escape stands for its unit. -/
theorem escape_unit {a b d e : Char} {n : Nat} (hrest : c.rest = 'u' :: a :: b :: d :: e :: cs)
    (hn : Text.hexNumber? [a, b, d, e] = some n) :
    escape c = .ok ([Text.ofUnit n], c.advanceBy 5) := by
  have hbound := (Json.digits_of_hexNumber? hn).1
  have hlookup : escapes.lookup 'u' = none := rfl
  have hwidth : escapeWidth? 'u' = some 4 := rfl
  have hdigits : c.advance.rest.take 4 = [a, b, d, e] := by
    rw [Cursor.rest_advance, hrest]
    rfl
  unfold escape
  simp only [Cursor.peek_cons hrest, hlookup, hwidth, hdigits, hn, letterOfCode_unit hbound, ok_bind]
  rfl

/-! ## One piece at a time -/

/-- A character that is neither a gap nor a quote nor a backslash belongs to the text. -/
def isRun (x : Char) : Bool :=
  !(isGap x || x == '\'' || x == '"' || x == '\\')

/-- A step takes a run of text, and goes on behind an apostrophe or an escape. -/
theorem nonSpaces_succ (fuel : Nat) (c : Cursor) :
    nonSpaces true (fuel + 1) c =
      (match c.span isRun with
      | (run, c) =>
        if c.peek == '\'' then (nonSpaces true fuel c.advance).map (Prod.map (run ++ '\'' :: ·) id)
        else if c.peek == '\\' then
          escape c.advance >>= fun (escaped, c) =>
            (nonSpaces true fuel c).map (Prod.map (run ++ escaped ++ ·) id)
        else .ok (run, c)) := by
  have hpredicate : (fun x => !(isGap x || x == '\'' || x == '"' || x == '\\')) = isRun := rfl
  -- The reader stops at a quote, a backslash or a blank, and goes on behind the first two.
  rw [nonSpaces.eq_2, hpredicate]
  generalize c.span isRun = after
  obtain ⟨run, c'⟩ := after
  by_cases hquote : c'.peek = '\''
  · simp only [hquote]
    cases nonSpaces true fuel c'.advance <;> rfl
  · by_cases hbackslash : c'.peek = '\\'
    · simp only [hbackslash]
      cases escape c'.advance with
      | error fault =>
          rfl
      | ok read =>
          obtain ⟨escaped, after⟩ := read
          simp only [ok_bind]
          cases nonSpaces true fuel after <;> rfl
    · simp [hquote, hbackslash]
      rfl

theorem nonSpaces_of_run (hrest : c.rest = x :: cs) (hx : isRun x = true) (fuel : Nat) :
    nonSpaces true (fuel + 1) c =
      (nonSpaces true (fuel + 1) c.advance).map (Prod.map (x :: ·) id) := by
  have hspan : c.span isRun = (x :: (c.advance.span isRun).1, (c.advance.span isRun).2) := by
    have hadvance : c.advance.rest = cs := by
      rw [Cursor.rest_advance, hrest]
      rfl
    simp only [Cursor.span, hrest, hadvance, List.takeWhile_cons_of_pos hx, List.length_cons,
      Cursor.advanceBy]
  rw [nonSpaces_succ, nonSpaces_succ, hspan]
  generalize c.advance.span isRun = after
  obtain ⟨run, c'⟩ := after
  dsimp only
  split_ifs
  · cases nonSpaces true fuel c'.advance <;> rfl
  · cases escape c'.advance with
    | error fault =>
        rfl
    | ok read =>
        obtain ⟨escaped, after⟩ := read
        simp only [ok_bind]
        cases nonSpaces true fuel after <;> rfl
  · rfl

theorem span_of_stop (hrest : c.rest = x :: cs) (hx : isRun x = false) : c.span isRun = ([], c) := by
  simp [Cursor.span, hrest, hx, Cursor.advanceBy]

/-- At a gap or the closing quote no text follows. -/
theorem nonSpaces_of_stop (hrest : c.rest = x :: cs) (hx : isGap x = true ∨ x = '"') (fuel : Nat) :
    nonSpaces true (fuel + 1) c = .ok ([], c) := by
  have hstop : isRun x = false := by
    rcases hx with hgap | rfl
    · simp [isRun, hgap]
    · rfl
  have hother : x ≠ '\'' ∧ x ≠ '\\' := by
    constructor
    all_goals
      rintro rfl
      rcases hx with hgap | hquote
      · cases hgap
      · cases hquote
  rw [nonSpaces_succ, span_of_stop hrest hstop]
  simp [Cursor.peek_cons hrest, hother]

theorem nonSpaces_of_apostrophe (hrest : c.rest = '\'' :: cs) (fuel : Nat) :
    nonSpaces true (fuel + 1) c = (nonSpaces true fuel c.advance).map (Prod.map ('\'' :: ·) id) := by
  rw [nonSpaces_succ, span_of_stop hrest rfl]
  simp [Cursor.peek_cons hrest]

theorem nonSpaces_of_escape (hrest : c.rest = '\\' :: cs) {escaped : List Char} {after : Cursor}
    (hescape : escape c.advance = .ok (escaped, after)) (fuel : Nat) :
    nonSpaces true (fuel + 1) c = (nonSpaces true fuel after).map (Prod.map (escaped ++ ·) id) := by
  rw [nonSpaces_succ, span_of_stop hrest rfl]
  simp [Cursor.peek_cons hrest, hescape, ok_bind]

/-! ## Up to the closing quote -/

/-- From a cursor on, so many characters in front of the closing quote are read as letters: first a run
of text, then blanks and text in turns. -/
def ReadsBody (c : Cursor) (length : Nat) (letters : List Char) : Prop :=
  ∃ run tail n, letters = run ++ tail ∧ n ≤ length ∧
    (∀ fuel, length < fuel → nonSpaces true fuel c = .ok (run, c.advanceBy n)) ∧
    ∀ fuel, length < fuel + n →
      Quoted.rest true fuel (c.advanceBy n) = .ok (tail, c.advanceBy (length + 1))

theorem readsBody_nil (hrest : c.rest = '"' :: left) : ReadsBody c 0 [] := by
  refine ⟨[], [], 0, rfl, Nat.le_refl 0, fun fuel hfuel => ?_, fun fuel hfuel => ?_⟩
  · obtain ⟨fuel, rfl⟩ := Nat.exists_eq_succ_of_ne_zero (Nat.ne_of_gt hfuel)
    exact nonSpaces_of_stop hrest (.inr rfl) fuel
  · obtain ⟨fuel, rfl⟩ := Nat.exists_eq_succ_of_ne_zero (Nat.ne_of_gt hfuel)
    have hpeek : (c.advanceBy 0).peek = '"' := Cursor.peek_cons hrest
    rw [Quoted.rest]
    simp only [hpeek]
    rfl

/-- A piece of text goes in front of what is read behind it. -/
theorem ReadsBody.piece {length m : Nat} {letters out : List Char}
    (h : ReadsBody (c.advanceBy m) length letters) (hm : 0 < m)
    (hstep : ∀ fuel, ∃ fuel', fuel ≤ fuel' ∧ nonSpaces true (fuel + 1) c =
      (nonSpaces true fuel' (c.advanceBy m)).map (Prod.map (out ++ ·) id)) :
    ReadsBody c (m + length) (out ++ letters) := by
  obtain ⟨run, tail, n, rfl, hn, hrun, htail⟩ := h
  refine ⟨out ++ run, tail, m + n, (List.append_assoc ..).symm, by omega, ?_, ?_⟩
  · intro fuel hfuel
    obtain ⟨fuel, rfl⟩ := Nat.exists_eq_succ_of_ne_zero (Nat.ne_of_gt (Nat.zero_lt_of_lt hfuel))
    obtain ⟨fuel', hle, hstep⟩ := hstep fuel
    rw [hstep, hrun fuel' (by omega), Cursor.advanceBy_advanceBy]
    rfl
  · intro fuel hfuel
    have hread := htail fuel (by omega)
    rw [Cursor.advanceBy_advanceBy, Cursor.advanceBy_advanceBy] at hread
    rw [hread, Nat.add_assoc]

theorem rest_advanceBy_of (hrest : c.rest = cs) (n : Nat) : (c.advanceBy n).rest = cs.drop n := by
  rw [Cursor.rest_advanceBy, hrest]

theorem ReadsBody.plain {length : Nat} {letters : List Char} (h : ReadsBody (c.advanceBy 1) length letters)
    (hrest : c.rest = x :: cs) (hgap : isGap x = false) (hquote : x ≠ '"') (hbackslash : x ≠ '\\') :
    ReadsBody c (length + 1) (x :: letters) := by
  rw [Nat.add_comm]
  change ReadsBody c (1 + length) ([x] ++ letters)
  refine h.piece Nat.one_pos fun fuel => ?_
  by_cases hx : x = '\''
  · subst hx
    exact ⟨fuel, Nat.le_refl _, nonSpaces_of_apostrophe hrest fuel⟩
  · have hrun : isRun x = true := by
      simp [isRun, hgap, hx, hquote, hbackslash]
    exact ⟨fuel + 1, Nat.le_succ _, nonSpaces_of_run hrest hrun fuel⟩

theorem ReadsBody.short {length : Nat} {letters : List Char} {y : Char}
    (h : ReadsBody (c.advanceBy 2) length letters) (hrest : c.rest = '\\' :: x :: cs)
    (hy : Json.escaped? x = some y) : ReadsBody c (length + 2) (y :: letters) := by
  have hescape := escape_short (rest_advanceBy_of hrest 1) hy
  rw [Nat.add_comm]
  change ReadsBody c (2 + length) ([y] ++ letters)
  exact h.piece Nat.two_pos fun fuel =>
    ⟨fuel, Nat.le_refl _, nonSpaces_of_escape hrest hescape fuel⟩

theorem ReadsBody.unit {length n : Nat} {letters : List Char} {a b d e : Char}
    (h : ReadsBody (c.advanceBy 6) length letters) (hrest : c.rest = '\\' :: 'u' :: a :: b :: d :: e :: cs)
    (hn : Text.hexNumber? [a, b, d, e] = some n) : ReadsBody c (length + 6) (Text.ofUnit n :: letters) := by
  have hescape := escape_unit (rest_advanceBy_of hrest 1) hn
  rw [Nat.add_comm]
  change ReadsBody c (6 + length) ([Text.ofUnit n] ++ letters)
  exact h.piece (by decide) fun fuel =>
    ⟨fuel, Nat.le_refl _, nonSpaces_of_escape hrest hescape fuel⟩

theorem spaces_of_unbroken {blanks : List Char} (hrest : c.rest = blanks ++ x :: cs)
    (hblanks : Spaces blanks) (hx : isGap x = false) :
    spaces c = .ok (blanks, c.advanceBy blanks.length) := by
  simp only [isGap, isSpaceOrEnd, isBreakOrEnd, Bool.or_eq_false_iff, beq_eq_false_iff_ne] at hx
  obtain ⟨htab, hspace, hend, hbreak⟩ := hx
  have hspan := Cursor.span_of_append (p := fun x => x == ' ' || x == '\t') hrest
    (fun y hy => by rw [hblanks y hy]; rfl)
    (fun y hy => by cases hy; simp [hspace, htab])
  have hafter := Cursor.rest_advanceBy_append hrest
  have hunbroken : (c.advanceBy blanks.length).lineBreak = ([], c.advanceBy blanks.length) :=
    Cursor.lineBreak_of_unbroken fun y hy => by
      rw [hafter] at hy
      cases hy
      exact hbreak
  have hpeek : ((c.advanceBy blanks.length).peek == endMark) = false := by
    rw [Cursor.peek_cons hafter]
    simpa using hend
  unfold spaces
  simp only [hspan, hpeek, hunbroken, Bool.false_eq_true, if_false]

/-- Spaces are kept, if neither a line break nor the end follows them. -/
theorem ReadsBody.spaces {blanks letters : List Char} {length : Nat}
    (h : ReadsBody (c.advanceBy blanks.length) length letters) (hrest : c.rest = blanks ++ x :: cs)
    (hblanks : Spaces blanks) (hne : blanks ≠ []) (hx : isGap x = false) (hlength : length ≤ cs.length) :
    ReadsBody c (blanks.length + length) (blanks ++ letters) := by
  have hpositive : 0 < blanks.length := List.length_pos_iff.2 hne
  obtain ⟨run, tail, n, rfl, hn, hrun, htail⟩ := h
  obtain ⟨blank, more, hcons⟩ := List.exists_cons_of_ne_nil hne
  -- The run of other characters is empty here, and the blanks are read before the next one.
  have hblank : blank = ' ' := hblanks blank (by rw [hcons]; exact List.mem_cons_self)
  subst hblank
  have hhead : c.rest = ' ' :: (more ++ x :: cs) := by
    rw [hrest, hcons]
    rfl
  refine ⟨[], blanks ++ (run ++ tail), 0, rfl, Nat.zero_le _, fun fuel hfuel => ?_, fun fuel hfuel => ?_⟩
  · obtain ⟨fuel, rfl⟩ := Nat.exists_eq_succ_of_ne_zero (Nat.ne_of_gt (Nat.zero_lt_of_lt hfuel))
    exact nonSpaces_of_stop hhead (.inl rfl) fuel
  · obtain ⟨fuel, rfl⟩ := Nat.exists_eq_succ_of_ne_zero (Nat.ne_of_gt (Nat.zero_lt_of_lt hfuel))
    have hafter := Cursor.rest_advanceBy_append hrest
    have hrun := hrun ((c.advanceBy blanks.length).rest.length + 1)
      (by rw [hafter, List.length_cons]; omega)
    have htail := htail fuel (by omega)
    have hend : (c.advanceBy blanks.length).advanceBy (length + 1) =
        c.advanceBy (blanks.length + length + 1) := by
      rw [Cursor.advanceBy_advanceBy, Nat.add_assoc]
    change Quoted.rest true (fuel + 1) c = _
    rw [hend] at htail
    rw [Quoted.rest]
    simp only [Cursor.peek_cons hhead, spaces_of_unbroken hrest hblanks hx, ok_bind, hrun, htail]
    rw [List.append_assoc]
    rfl

/-- What both formats take for letters is read as them, up to the closing quote. -/
theorem body_of_letters {body letters : List Char} (h : Letters body letters)
    (hrest : c.rest = body ++ '"' :: left) : ReadsBody c body.length letters := by
  -- A row of spaces is read at once, so the induction is on the length.
  induction hn : body.length using Nat.strongRecOn generalizing body letters c with
  | ind n ih =>
      subst hn
      obtain ⟨blanks, more, lettersMore, rfl, rfl, hblanks, hmore, hhead⟩ := h.exists_spaces
      by_cases hne : blanks = []
      · subst hne
        have hgap : ∀ x ∈ (more ++ '"' :: left).head?, isGap x = false := hmore.isGap_head hhead
        have hnext := rest_advanceBy_of hrest
        cases hmore with
        | nil =>
            exact readsBody_nil hrest
        | plain hquote hbackslash _ _ hbody =>
            have hread := ih _ (Nat.lt_succ_self _) hbody (hnext 1) rfl
            exact hread.plain hrest (hgap _ rfl) hquote hbackslash
        | short _ hy hbody =>
            have hread := ih _ (by simp only [List.nil_append, List.length_cons]; omega) hbody (hnext 2) rfl
            exact hread.short hrest hy
        | unit hn hbody =>
            have hread := ih _ (by simp only [List.nil_append, List.length_cons]; omega) hbody (hnext 6) rfl
            exact hread.unit hrest hn
      · obtain ⟨x, cs, hcs⟩ : ∃ x cs, more ++ '"' :: left = x :: cs :=
          List.exists_cons_of_ne_nil (by simp)
        have hgap := hmore.isGap_head hhead x (by rw [hcs]; rfl)
        rw [List.append_assoc] at hrest
        have hafter := Cursor.rest_advanceBy_append hrest
        have hshorter : more.length < (blanks ++ more).length := by
          have hpositive := List.length_pos_iff.2 hne
          rw [List.length_append]
          omega
        have hread := ih more.length hshorter hmore hafter rfl
        have hlength : more.length ≤ cs.length := by
          have hsame := congrArg List.length hcs
          rw [List.length_append, List.length_cons, List.length_cons] at hsame
          omega
        rw [hcs] at hrest
        rw [List.length_append]
        exact hread.spaces hrest hblanks hne hgap hlength

/-- A scalar in double quotes is read as its letters, and the cursor ends behind the closing quote. -/
theorem read_of_letters {body letters : List Char} (h : Letters body letters)
    (hrest : c.rest = '"' :: (body ++ '"' :: left)) :
    Quoted.read true c = .ok (letters, c.advanceBy (body.length + 2)) := by
  have hafter : c.advance.rest = body ++ '"' :: left := by
    rw [Cursor.rest_advance, hrest]
    rfl
  obtain ⟨run, tail, n, rfl, hn, hrun, htail⟩ := body_of_letters h hafter
  have hlength : c.advance.rest.length = body.length + (left.length + 1) := by
    rw [hafter, List.length_append, List.length_cons]
  have hleft : (c.advance.advanceBy n).rest.length = c.advance.rest.length - n := by
    rw [Cursor.rest_advanceBy, List.length_drop]
  unfold Quoted.read
  simp only [hrun _ (by omega : body.length < c.advance.rest.length + 1), ok_bind,
    htail _ (by omega : body.length < (c.advance.advanceBy n).rest.length + 1 + n)]
  rfl

end Quoted
end Yaml
end ApiView
