import ApiView.Json.Reader
import ApiView.Json.Writer
import ApiView.Proofs.Text.Kept

/-!
# Strings — what is written between quotes is read back

A text is written code by code, and the reader takes one piece after the other.  This file follows a
code on its way:

* `StandsFor`: a piece of a string that is read as some units, whatever follows;
* `standsFor_escapeAscii`: an escaped code is read as its 16-bit units;
* `joinHalves_unitsOf_append`: the units of a character are joined to it again;
* `KeepsCharacters`, `readString_quoted`: a way of writing from which proper texts are read back;
* `keepsCharacters_escapeAscii`, `keepsCharacters_escapeControls`: both ways of writing are such ways.
-/

namespace ApiView

/-! ## Hexadecimal digits -/

theorem Text.hexValue?_hexDigit : ∀ n, n < 16 → hexValue? (hexDigit n) = some n := by
  decide

/-- Four digits are enough for a 16-bit unit. -/
theorem Text.hexNumber?_hexPadded {n : Nat} :
    n < 0x10000 → hexNumber? (hexPadded 4 n) = some n := by
  intro h
  have hdigit : ∀ m, hexValue? (hexDigit (m % 16)) = some (m % 16) :=
    fun m => hexValue?_hexDigit _ (Nat.mod_lt m (by decide))
  have hdigits : hexPadded 4 n = [hexDigit (n / 16 / 16 / 16 % 16), hexDigit (n / 16 / 16 % 16),
      hexDigit (n / 16 % 16), hexDigit (n % 16)] := rfl
  rw [hdigits]
  simp only [hexNumber?, List.foldl_cons, List.foldl_nil, hdigit, Option.bind_eq_bind,
    Option.bind_some, Option.pure_def, Option.some.injEq]
  omega

namespace Json

/-! ## Pieces of a string -/

/-- A piece of a string is read as some units, if anything follows it. -/
def StandsFor (piece : List Char) (units : List Nat) : Prop :=
  ∀ start rest : List Char, rest ≠ [] →
    readUnits start (piece ++ rest) = (readUnits start rest).map (Prod.map (units ++ ·) id)

namespace StandsFor

theorem nil : StandsFor [] [] := by
  intro start rest _
  rw [List.nil_append]
  cases readUnits start rest <;> rfl

theorem append {piece piece' : List Char} {units units' : List Nat} :
    StandsFor piece units → StandsFor piece' units' →
      StandsFor (piece ++ piece') (units ++ units') := by
  intro h h' start rest hrest
  have hmore : piece' ++ rest ≠ [] := by simp [hrest]
  rw [List.append_assoc, h start _ hmore, h' start rest hrest]
  cases readUnits start rest with
  | error fault =>
      rfl
  | ok read =>
      simp [Except.map, Prod.map, List.append_assoc]

end StandsFor

/-- A character that needs no escape is read as itself. -/
theorem standsFor_plain {c : Char} (hquote : c ≠ '"') (hbackslash : c ≠ '\\') (hcontrol : ¬ c < ' ') :
    StandsFor [c] [c.toNat] := by
  intro start rest _
  rw [List.singleton_append, readUnits.eq_7 start c rest hquote hbackslash, if_neg hcontrol]
  cases readUnits start rest <;> rfl

theorem standsFor_short {c x : Char} (hletter : c ≠ 'u') (hescaped : escaped? c = some x) :
    StandsFor ['\\', c] [x.toNat] := by
  intro start rest _
  have hread := readUnits.eq_6 start c rest (fun _ _ _ _ _ _ hc => absurd hc hletter) hletter
  simp only [hescaped] at hread
  rw [List.cons_append, List.singleton_append, hread]
  cases readUnits start rest <;> rfl

/-- A numeric escape stands for its unit. -/
theorem standsFor_unitEscape {n : Nat} : n < 0x10000 → StandsFor (unitEscape n) [n] := by
  intro h start rest hrest
  obtain ⟨c, rest, rfl⟩ := List.exists_cons_of_ne_nil hrest
  have hnumber := Text.hexNumber?_hexPadded h
  -- The reader takes the four digits one by one.
  have hdigits : ∃ a b d e, Text.hexPadded 4 n = [a, b, d, e] := ⟨_, _, _, _, rfl⟩
  obtain ⟨a, b, d, e, hdigits⟩ := hdigits
  rw [hdigits] at hnumber
  have hread := readUnits.eq_4 start a b d e c rest
  simp only [hnumber] at hread
  rw [unitEscape, hdigits]
  simp only [List.cons_append, List.nil_append]
  rw [hread]
  cases readUnits start (c :: rest) <;> rfl

/-! ## Escaped codes -/

/-- The 16-bit units of a code. -/
def unitsOf (n : Nat) : List Nat :=
  if n < 0x10000 then [n] else [0xD800 + (n - 0x10000) / 0x400, 0xDC00 + (n - 0x10000) % 0x400]

theorem unitsOf_of_lt {n : Nat} (h : n < 0x10000) : unitsOf n = [n] :=
  if_pos h

/-- A code with an escape of its own is read as that code. -/
theorem standsFor_shortEscape {n : Nat} {piece : List Char} :
    shortEscape? n = some piece → StandsFor piece (unitsOf n) := by
  intro h
  simp only [shortEscape?, beq_iff_eq] at h
  -- One case for each letter behind the backslash.
  split_ifs at h with hquote hbackslash hline hreturn htab hback hfeed
  all_goals
    cases h
    subst n
  · exact standsFor_short (x := '"') (by decide) rfl
  · exact standsFor_short (x := '\\') (by decide) rfl
  · exact standsFor_short (x := '\n') (by decide) rfl
  · exact standsFor_short (x := '\r') (by decide) rfl
  · exact standsFor_short (x := '\t') (by decide) rfl
  · exact standsFor_short (x := '\x08') (by decide) rfl
  · exact standsFor_short (x := '\x0c') (by decide) rfl

/-- A printable character stands for itself. -/
theorem standsFor_printable {n : Nat} (hshort : shortEscape? n = none) (hlow : 0x20 ≤ n)
    (hhigh : n ≤ 0x7E) : StandsFor [Char.ofNat n] [n] := by
  -- Quote and backslash are the only printable characters with an escape of their own.
  have hplain : ∀ m ≤ 0x7E, 0x20 ≤ m → shortEscape? m = none →
      Char.ofNat m ≠ '"' ∧ Char.ofNat m ≠ '\\' ∧ ¬ Char.ofNat m < ' ' ∧ (Char.ofNat m).toNat = m := by
    decide +kernel
  obtain ⟨hquote, hbackslash, hcontrol, hvalue⟩ := hplain n hhigh hlow hshort
  have hread := standsFor_plain hquote hbackslash hcontrol
  rwa [hvalue] at hread

/-- An escaped code is read as its units. -/
theorem standsFor_escapeAscii {n : Nat} : n < 0x110000 → StandsFor (escapeAscii n) (unitsOf n) := by
  intro h
  unfold escapeAscii
  cases hshort : shortEscape? n with
  | some piece =>
      exact standsFor_shortEscape hshort
  | none =>
      dsimp only
      by_cases hprintable : (decide (0x20 ≤ n) && decide (n ≤ 0x7E)) = true
      · rw [if_pos hprintable]
        have hbounds : 0x20 ≤ n ∧ n ≤ 0x7E := by simpa using hprintable
        rw [unitsOf_of_lt (by omega)]
        exact standsFor_printable hshort hbounds.1 hbounds.2
      · rw [if_neg hprintable]
        by_cases hplane : n < 0x10000
        · rw [if_pos hplane, unitsOf_of_lt hplane]
          exact standsFor_unitEscape hplane
        · rw [if_neg hplane, unitsOf, if_neg hplane]
          have hhigh : 0xD800 + (n - 0x10000) / 0x400 < 0x10000 := by omega
          have hlow : 0xDC00 + (n - 0x10000) % 0x400 < 0x10000 := by omega
          exact (standsFor_unitEscape hhigh).append (standsFor_unitEscape hlow)

/-! ## Raw characters -/

/-- A character that has to be escaped is a quote, a backslash or a control character. -/
theorem plain_of_noEscape {c : Char} (hshort : shortEscape? c.toNat = none)
    (hcontrol : ¬ c.toNat < 0x20) : c ≠ '"' ∧ c ≠ '\\' ∧ ¬ c < ' ' := by
  refine ⟨?_, ?_, fun hlow => hcontrol hlow⟩
  · rintro rfl
    cases hshort
  · rintro rfl
    cases hshort

/-- A character that needs no escape stands for itself, under its guard. -/
theorem standsFor_guarded {c : Char} (hshort : shortEscape? c.toNat = none)
    (hcontrol : ¬ c.toNat < 0x20) :
    StandsFor (Text.guarded c) ((Text.guarded c).map Char.toNat) := by
  obtain ⟨hquote, hbackslash, hlow⟩ := plain_of_noEscape hshort hcontrol
  have hplain := standsFor_plain hquote hbackslash hlow
  unfold Text.guarded
  split
  · -- The mark in front of a character needs no escape either.
    have hmark : StandsFor [Text.guardMark] [Text.guardMark.toNat] :=
      standsFor_plain (by decide) (by decide) (by decide)
    exact hmark.append hplain
  · exact hplain

/-! ## Joined units -/

/-- A unit that is no half is joined to nothing. -/
theorem joinHalves_cons_of_whole {n : Nat} (hwhole : Text.isHalf n = false) (rest : List Nat) :
    joinHalves (n :: rest) = Text.ofUnit n :: joinHalves rest := by
  cases rest with
  | nil =>
      rfl
  | cons m rest =>
      have hhigh : ¬ (0xD800 ≤ n ∧ n ≤ 0xDBFF) := by
        simp only [Text.isHalf, Bool.and_eq_false_iff, decide_eq_false_iff_not] at hwhole
        omega
      have hpair : ¬ (decide (0xD800 ≤ n) && decide (n ≤ 0xDBFF) && decide (0xDC00 ≤ m) &&
          decide (m ≤ 0xDFFF)) = true := by
        simp only [Bool.and_eq_true, decide_eq_true_eq]
        rintro ⟨⟨hpair, _⟩, _⟩
        exact hhigh hpair
      rw [joinHalves, if_neg hpair]

/-- The units of a character are joined to the way it is kept. -/
theorem joinHalves_unitsOf_append (c : Char) (rest : List Nat) :
    joinHalves (unitsOf c.toNat ++ rest) = Text.guarded c ++ joinHalves rest := by
  have hwhole := Text.isHalf_toNat c
  have hbound := Text.toNat_lt c
  by_cases hplane : c.toNat < 0x10000
  · have hfirst : c.toNat < Text.halfPlane := Nat.lt_of_lt_of_le hplane (by decide)
    rw [unitsOf_of_lt hplane, List.singleton_append, joinHalves_cons_of_whole hwhole,
      Text.guarded_of_lt hfirst, List.singleton_append, Text.ofUnit, hwhole]
    simp
  · -- Above the first plane the two halves of a pair are joined again.
    rw [unitsOf, if_neg hplane, List.cons_append, List.singleton_append, joinHalves]
    generalize hn : c.toNat = n at *
    have hpair : (decide (0xD800 ≤ 0xD800 + (n - 0x10000) / 0x400) &&
        decide (0xD800 + (n - 0x10000) / 0x400 ≤ 0xDBFF) &&
        decide (0xDC00 ≤ 0xDC00 + (n - 0x10000) % 0x400) &&
        decide (0xDC00 + (n - 0x10000) % 0x400 ≤ 0xDFFF)) = true := by
      simp only [Bool.and_eq_true, decide_eq_true_eq]
      omega
    have hcode : 0x10000 + (0xD800 + (n - 0x10000) / 0x400 - 0xD800) * 0x400 +
        (0xDC00 + (n - 0x10000) % 0x400 - 0xDC00) = n := by
      omega
    rw [if_pos hpair, hcode, ← hn, Text.ofCode_toNat]

/-- Characters are no halves, so a row of them is joined to itself. -/
theorem joinHalves_map_toNat_append (cs : List Char) (rest : List Nat) :
    joinHalves (cs.map Char.toNat ++ rest) = cs ++ joinHalves rest := by
  induction cs with
  | nil =>
      rfl
  | cons c cs ih =>
      have hwhole := Text.isHalf_toNat c
      rw [List.map_cons, List.cons_append, joinHalves_cons_of_whole hwhole, ih, Text.ofUnit, hwhole]
      simp

/-! ## Whole strings -/

/-- Every character is written as units that are joined to it again. -/
def KeepsCharacters (escape : Nat → List Char) : Prop :=
  ∀ c : Char, ∃ units, StandsFor (escape c.toNat) units ∧
    ∀ rest, joinHalves (units ++ rest) = Text.guarded c ++ joinHalves rest

/-- The ASCII form keeps every character. -/
theorem keepsCharacters_escapeAscii : KeepsCharacters escapeAscii := by
  intro c
  exact ⟨unitsOf c.toNat, standsFor_escapeAscii (Text.toNat_lt c), joinHalves_unitsOf_append c⟩

/-- With only what has to be escaped escaped, every other character is kept as it is. -/
theorem keepsCharacters_escapeControls : KeepsCharacters escapeControls := by
  intro c
  unfold escapeControls
  cases hshort : shortEscape? c.toNat with
  | some piece =>
      exact ⟨unitsOf c.toNat, standsFor_shortEscape hshort, joinHalves_unitsOf_append c⟩
  | none =>
      dsimp only
      by_cases hcontrol : c.toNat < 0x20
      · rw [if_pos hcontrol]
        have hplane : c.toNat < 0x10000 := by omega
        have hunit : StandsFor (unitEscape c.toNat) (unitsOf c.toNat) := by
          rw [unitsOf_of_lt hplane]
          exact standsFor_unitEscape hplane
        exact ⟨unitsOf c.toNat, hunit, joinHalves_unitsOf_append c⟩
      · rw [if_neg hcontrol, Text.ofCode_toNat]
        exact ⟨(Text.guarded c).map Char.toNat, standsFor_guarded hshort hcontrol,
          joinHalves_map_toNat_append (Text.guarded c)⟩

/-- Character by character, a row of characters is written as units that are joined to it. -/
theorem KeepsCharacters.exists_units {escape : Nat → List Char} (hescape : KeepsCharacters escape)
    (cs : List Char) :
    ∃ units, StandsFor ((cs.map Char.toNat).flatMap escape) units ∧
      joinHalves units = Text.guard cs := by
  induction cs with
  | nil =>
      exact ⟨[], StandsFor.nil, rfl⟩
  | cons c rest ih =>
      obtain ⟨units, hunits, hjoined⟩ := hescape c
      obtain ⟨more, hmore, hrest⟩ := ih
      refine ⟨units ++ more, hunits.append hmore, ?_⟩
      rw [hjoined, hrest]
      rfl

/-- A proper text between quotes is read back. -/
theorem readString_quoted {escape : Nat → List Char} (hescape : KeepsCharacters escape) {s : String}
    (rest : List Char) :
    Text.isProper s = true →
      readString ((Text.codes s.toList).flatMap escape ++ '"' :: rest) = .ok (s, rest) := by
  intro hproper
  obtain ⟨cs, rfl⟩ := (Text.isProper_iff s).1 hproper
  obtain ⟨units, hunits, hjoined⟩ := hescape.exists_units cs
  have hquote : ∀ start, readUnits start ('"' :: rest) = .ok ([], rest) :=
    fun start => readUnits.eq_2 start rest
  rw [String.toList_ofList, Text.codes_guard, readString, hunits _ _ (List.cons_ne_nil _ _), hquote,
    ← hjoined]
  simp [Except.map, bind, Except.bind, pure, Except.pure]

end Json
end ApiView
