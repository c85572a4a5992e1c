import ApiView.Proofs.Naming.Paths

/-!
# Boundaries — where one word of a run ends and the next begins

A run is cut from left to right, and the last capital of a pending word may be taken back from it when a
small letter follows.  What comes out can be said without the pending word: whether there is a boundary
between two characters depends on their kinds and on the kind of the character behind them.

* `Parts`, `PartsAt`: the rule, for two kinds and for a place in a text;
* `BeginsAt`: a word of a row begins at a place, counted in characters;
* `splitAfter_cases`: the three things that can happen to the pending word at the next character;
* `beginsAt_splitAfter`, `beginsAt_splitRun`: the words of a run begin where the rule says;
* `isWord_of_unbroken`: what the rule does not part is a word of one of four forms;
* `splitRun_boundaries`: all of it, for every text.
-/

namespace ApiView
namespace Naming

/-! ## The rule -/

/-- Whether there is a boundary between characters of the kinds `a` and `b`, the second of which is
followed by one of the kind `next`: digits part from letters, capitals from small letters in front of them,
and the last capital of an acronym from the others if it belongs to a small letter. -/
def Parts (a b : LetterKind) (next : Option LetterKind) : Prop :=
  (a = .digit ∧ b ≠ .digit ∨ a ≠ .digit ∧ b = .digit) ∨ (a = .lower ∧ b = .upper) ∨
    (a = .upper ∧ b = .upper ∧ next = some .lower)

instance (a b : LetterKind) (next : Option LetterKind) : Decidable (Parts a b next) :=
  inferInstanceAs (Decidable (_ ∨ _ ∨ _))

/-- Whether the rule parts the characters at the places `i` and `i + 1` of a text. -/
def PartsAt (cs : List Char) (i : Nat) : Prop :=
  ∃ a b, cs[i]? = some a ∧ cs[i + 1]? = some b ∧ Parts (kindOf a) (kindOf b) (cs[i + 2]?.map kindOf)

/-- A text that the rule parts nowhere. -/
def Unbroken (cs : List Char) : Prop :=
  ∀ i, ¬ PartsAt cs i

/-- A word of a row begins behind the first `n` characters. -/
def BeginsAt (ws : List (List Char)) (n : Nat) : Prop :=
  ∃ front w back, ws = front ++ w :: back ∧ front.flatten.length = n

variable {cs front back w word rest : List Char} {ws : List (List Char)} {a b c last : Char} {i n : Nat}

/-! ### Kinds -/

/-- What follows can only add a boundary. -/
theorem Parts.of_none {a b : LetterKind} (next : Option LetterKind) :
    Parts a b none → Parts a b next := by
  rintro (hdigit | hcapital | ⟨-, -, hnext⟩)
  · exact .inl hdigit
  · exact .inr (.inl hcapital)
  · cases hnext

/-- The boundary that depends on what follows is the one inside of an acronym. -/
theorem Parts.none_or {a b : LetterKind} {next : Option LetterKind} :
    Parts a b next → Parts a b none ∨ (b = .upper ∧ next = some .lower) := by
  rintro (hdigit | hcapital | ⟨-, hb, hnext⟩)
  · exact .inl (.inl hdigit)
  · exact .inl (.inr (.inl hcapital))
  · exact .inr ⟨hb, hnext⟩

/-! ### Places -/

theorem PartsAt.lt : PartsAt cs i → i + 1 < cs.length := by
  rintro ⟨a, b, -, hb, -⟩
  exact (List.getElem?_eq_some_iff.1 hb).1

/-- The rule looks at what stands around a place, wherever the text begins. -/
theorem partsAt_append_right (front back : List Char) (i : Nat) :
    PartsAt (front ++ back) (front.length + i) ↔ PartsAt back i := by
  have hshift : ∀ k, (front ++ back)[front.length + i + k]? = back[i + k]? := by
    intro k
    have hle : front.length ≤ front.length + i + k := by omega
    have hindex : front.length + i + k - front.length = i + k := by omega
    rw [List.getElem?_append_right hle, hindex]
  have hself := hshift 0
  simp only [Nat.add_zero] at hself
  unfold PartsAt
  rw [hself, hshift 1, hshift 2]

/-- A boundary stays where more characters follow. -/
theorem PartsAt.append (back : List Char) : PartsAt front i → PartsAt (front ++ back) i := by
  intro h
  have hlt := h.lt
  obtain ⟨a, b, ha, hb, hparts⟩ := h
  refine ⟨a, b, ?_, ?_, ?_⟩
  · rwa [List.getElem?_append_left (by omega)]
  · rwa [List.getElem?_append_left hlt]
  · by_cases hnext : i + 2 < front.length
    · rwa [List.getElem?_append_left hnext]
    · -- The last two characters in front are parted whatever follows them.
      rw [List.getElem?_eq_none (by omega)] at hparts
      exact hparts.of_none _

/-- Only the last two characters in front are parted by what follows them. -/
theorem PartsAt.of_append : PartsAt (front ++ c :: back) i → i + 1 < front.length →
    PartsAt front i ∨
      (i + 2 = front.length ∧ (front.getLast?.map kindOf) = some .upper ∧ kindOf c = .lower) := by
  rintro ⟨a, b, ha, hb, hparts⟩ hlt
  rw [List.getElem?_append_left (by omega)] at ha
  rw [List.getElem?_append_left hlt] at hb
  -- Whether two characters part depends on the one behind them, which may be the first of the back.
  by_cases hnext : i + 2 < front.length
  · left
    rw [List.getElem?_append_left hnext] at hparts
    exact ⟨a, b, ha, hb, hparts⟩
  · have hend : i + 2 = front.length := by omega
    have hbehind : front[i + 2]? = none := List.getElem?_eq_none (by omega)
    rcases hparts.none_or with hnone | ⟨hupper, hlower⟩
    · left
      refine ⟨a, b, ha, hb, ?_⟩
      rwa [hbehind]
    · right
      have hlast : front.getLast? = some b := by
        rw [List.getLast?_eq_getElem?, ← hb]
        congr 1
        omega
      have hc : (front ++ c :: back)[i + 2]? = some c := by simp [hend]
      rw [hc] at hlower
      refine ⟨hend, ?_, by simpa using hlower⟩
      simp [hlast, hupper]

/-- The rule at the end of a text with one more character. -/
theorem partsAt_concat (word : List Char) (last c : Char) (rest : List Char) :
    PartsAt (word ++ last :: c :: rest) word.length ↔
      Parts (kindOf last) (kindOf c) (rest.head?.map kindOf) := by
  have hstart := partsAt_append_right word (last :: c :: rest) 0
  rw [Nat.add_zero] at hstart
  rw [hstart]
  cases rest <;> simp [PartsAt]

/-! ### Words of a row -/

theorem not_beginsAt_nil (n : Nat) : ¬ BeginsAt [] n := by
  rintro ⟨front, w, back, h, -⟩
  simp at h

/-- The first word begins in front of everything, every other one behind the first. -/
theorem beginsAt_cons : BeginsAt (w :: ws) n ↔ n = 0 ∨ ∃ m, BeginsAt ws m ∧ n = w.length + m := by
  constructor
  · rintro ⟨front, v, back, h, rfl⟩
    cases front with
    | nil =>
        exact .inl rfl
    | cons u front =>
        obtain ⟨rfl, rfl⟩ := List.cons.inj h
        exact .inr ⟨front.flatten.length, ⟨front, v, back, rfl, rfl⟩, by simp⟩
  · rintro (rfl | ⟨m, ⟨front, v, back, rfl, rfl⟩, rfl⟩)
    · exact ⟨[], w, ws, rfl, rfl⟩
    · exact ⟨w :: front, v, back, rfl, by simp⟩

/-- Inside of its first word no word of a row begins. -/
theorem not_beginsAt_inside : i + 1 < w.length → ¬ BeginsAt (w :: ws) (i + 1) := by
  intro hlt hbegins
  rcases beginsAt_cons.1 hbegins with hzero | ⟨m, -, hm⟩
  · omega
  · omega

/-- A word more in front moves all others. -/
theorem beginsAt_behind (hne : w ≠ []) : BeginsAt (w :: ws) (w.length + n) ↔ BeginsAt ws n := by
  have hpos : 0 < w.length := List.length_pos_iff.2 hne
  rw [beginsAt_cons]
  constructor
  · rintro (hzero | ⟨m, hm, hlength⟩)
    · omega
    · obtain rfl : n = m := by omega
      exact hm
  · intro h
    exact .inr ⟨n, h, rfl⟩

/-- A word in front of words that begin where the rule says.  The rule has to part nothing inside of the new
word, and to part it from what follows. -/
theorem beginsAt_cons_iff_partsAt (hne : w ≠ []) (hinside : ∀ i, i + 1 < w.length → ¬ PartsAt (w ++ cs) i)
    (hend : PartsAt (w ++ cs) (w.length - 1)) (hfirst : BeginsAt ws 0)
    (hws : ∀ i, BeginsAt ws (i + 1) ↔ PartsAt cs i) (i : Nat) :
    BeginsAt (w :: ws) (i + 1) ↔ PartsAt (w ++ cs) i := by
  have hpos : 0 < w.length := List.length_pos_iff.2 hne
  rcases Nat.lt_trichotomy (i + 1) w.length with hin | hat | hbehind
  · exact iff_of_false (not_beginsAt_inside hin) (hinside i hin)
  · have hplace : w.length - 1 = i := by omega
    rw [hplace] at hend
    refine iff_of_true ?_ hend
    rw [hat]
    exact (beginsAt_behind hne).2 hfirst
  · obtain ⟨j, rfl⟩ : ∃ j, i = w.length + j := ⟨i - w.length, by omega⟩
    calc
      BeginsAt (w :: ws) (w.length + j + 1)
          ↔ BeginsAt ws (j + 1) := beginsAt_behind (n := j + 1) hne
      _ ↔ PartsAt cs j := hws j
      _ ↔ PartsAt (w ++ cs) (w.length + j) := (partsAt_append_right w cs j).symm

/-! ## Cutting -/

/-- What the next character does to the pending word: it ends the word, or it takes the last capital of an
acronym with it, or it joins the word. -/
theorem splitAfter_cases (word : List Char) (last c : Char) (rest : List Char) :
    (Parts (kindOf last) (kindOf c) none ∧
      splitAfter word last (c :: rest) = (word ++ [last]) :: splitAfter [] c rest) ∨
    (kindOf last = .upper ∧ kindOf c = .lower ∧ word ≠ [] ∧
      splitAfter word last (c :: rest) = word :: splitAfter [last] c rest) ∨
    (¬ Parts (kindOf last) (kindOf c) none ∧ (kindOf last = .upper → kindOf c = .lower → word = []) ∧
      splitAfter word last (c :: rest) = splitAfter (word ++ [last]) c rest) := by
  rw [splitAfter]
  cases hlast : kindOf last <;> cases hc : kindOf c <;> cases word <;> simp [Parts]

theorem splitAfter_ne_nil (word : List Char) (last : Char) (rest : List Char) :
    splitAfter word last rest ≠ [] := by
  intro h
  have hflat := flatten_splitAfter word last rest
  rw [h] at hflat
  simp at hflat

theorem beginsAt_zero (word : List Char) (last : Char) (rest : List Char) :
    BeginsAt (splitAfter word last rest) 0 := by
  obtain ⟨w, ws, hws⟩ := List.exists_cons_of_ne_nil (splitAfter_ne_nil word last rest)
  rw [hws]
  exact beginsAt_cons.2 (.inl rfl)

theorem unbroken_singleton (c : Char) : Unbroken [c] := by
  intro i h
  simpa using h.lt

/-- The pending word stays unbroken when a character joins it. -/
theorem Unbroken.concat (hwhole : Unbroken (word ++ [last]))
    (hapart : ¬ Parts (kindOf last) (kindOf c) none)
    (hacronym : kindOf last = .upper → kindOf c = .lower → word = []) :
    Unbroken (word ++ [last] ++ [c]) := by
  intro i h
  have hlt : i < word.length + 1 := by simpa using h.lt
  by_cases hin : i < word.length
  · rcases h.of_append (by simpa using hin) with hparts | ⟨-, hlast, hc⟩
    · exact hwhole i hparts
    · have hupper : kindOf last = .upper := by simpa using hlast
      rw [hacronym hupper hc] at hin
      simp at hin
  · obtain rfl : i = word.length := by omega
    have hparts := (partsAt_concat word last c []).1 (by simpa using h)
    exact hapart hparts

/-- The rule does not part the pending word, unless its last capital goes with the next character. -/
theorem Unbroken.inside (hwhole : Unbroken (word ++ [last]))
    (hacronym : ¬ (kindOf last = .upper ∧ kindOf c = .lower)) :
    ∀ i, i + 1 < (word ++ [last]).length → ¬ PartsAt (word ++ [last] ++ c :: rest) i := by
  intro i hlt h
  rcases h.of_append hlt with hparts | ⟨-, hlast, hc⟩
  · exact hwhole i hparts
  · exact hacronym ⟨by simpa using hlast, hc⟩

/-- In front of a capital that the rule does not part it from stands another capital. -/
theorem Unbroken.upper_of_upper {init : List Char} {before : Char}
    (hwhole : Unbroken (init ++ [before] ++ [last])) (hlast : kindOf last = .upper) :
    kindOf before = .upper := by
  have hparts : ¬ Parts (kindOf before) (kindOf last) none := by
    intro hparts
    have hat := (partsAt_concat init before last []).2 hparts
    exact hwhole init.length (by simpa using hat)
  rw [hlast] at hparts
  revert hparts
  cases kindOf before <;> decide

/-- The words of a run whose pending word is unbroken begin where the rule says. -/
theorem beginsAt_splitAfter (hwhole : Unbroken (word ++ [last])) (i : Nat) :
    BeginsAt (splitAfter word last rest) (i + 1) ↔ PartsAt (word ++ last :: rest) i := by
  -- The induction is on what is left of the run.  The pending word has no boundary inside it.
  induction rest generalizing word last i with
  | nil =>
      rw [splitAfter]
      refine iff_of_false ?_ (hwhole i)
      intro hbegins
      rcases beginsAt_cons.1 hbegins with hzero | ⟨m, hm, -⟩
      · omega
      · exact not_beginsAt_nil m hm
  | cons c rest ih =>
      have htext : word ++ last :: c :: rest = word ++ [last] ++ c :: rest := by simp
      rcases splitAfter_cases word last c rest with
        ⟨hends, hcut⟩ | ⟨hlast, hc, hne, hcut⟩ | ⟨hjoins, hacronym, hcut⟩
      · -- The pending word ends in front of `c`.
        have hapart : ¬ (kindOf last = .upper ∧ kindOf c = .lower) := by
          rintro ⟨hlast, hc⟩
          rw [hlast, hc] at hends
          exact absurd hends (by decide)
        have hend : PartsAt (word ++ [last] ++ c :: rest) ((word ++ [last]).length - 1) := by
          rw [← htext]
          have hat := (partsAt_concat word last c rest).2 (hends.of_none _)
          simpa using hat
        rw [hcut, htext]
        exact beginsAt_cons_iff_partsAt (by simp) (hwhole.inside hapart) hend (beginsAt_zero [] c rest)
          (ih (unbroken_singleton c)) i
      · -- The last capital is taken back from the pending word, which ends in front of it.
        have hpair : Unbroken ([] ++ [last] ++ [c]) := by
          apply Unbroken.concat (unbroken_singleton last)
          · rw [hlast, hc]
            decide
          · exact fun _ _ => rfl
        obtain ⟨init, before, rfl⟩ := (List.eq_nil_or_concat' word).resolve_left hne
        have hbefore := hwhole.upper_of_upper hlast
        have hinside : ∀ i, i + 1 < (init ++ [before]).length →
            ¬ PartsAt (init ++ [before] ++ last :: c :: rest) i := by
          intro i hlt h
          rcases h.of_append hlt with hparts | ⟨-, -, hlower⟩
          · exact hwhole i (hparts.append [last])
          · rw [hlast] at hlower
            cases hlower
        have hend : PartsAt (init ++ [before] ++ last :: c :: rest) ((init ++ [before]).length - 1) := by
          have hat := (partsAt_concat init before last (c :: rest)).2 (by
            simp [hbefore, hlast, hc, Parts])
          simpa using hat
        rw [hcut]
        exact beginsAt_cons_iff_partsAt hne hinside hend (beginsAt_zero [last] c rest) (ih hpair) i
      · -- The pending word goes on.
        rw [hcut, htext]
        have hjoined := ih (hwhole.concat hjoins hacronym) i
        simpa using hjoined

/-- Words of a run begin where the rule says. -/
theorem beginsAt_splitRun (cs : List Char) (i : Nat) :
    BeginsAt (splitRun cs) (i + 1) ↔ PartsAt cs i := by
  cases cs with
  | nil =>
      exact iff_of_false (not_beginsAt_nil _) fun h => by simpa using h.lt
  | cons c rest =>
      -- The first word begins with nothing but its first character pending.
      exact beginsAt_splitAfter (unbroken_singleton c) i

/-! ## Forms of words -/

/-- The forms of a word: a row of digits, of capitals or of small letters, or a capital with small letters
behind it. -/
inductive IsWord : List Char → Prop where
  | digits {w : List Char} : (∀ c ∈ w, kindOf c = .digit) → IsWord w
  | capitals {w : List Char} : (∀ c ∈ w, kindOf c = .upper) → IsWord w
  | smalls {w : List Char} : (∀ c ∈ w, kindOf c = .lower) → IsWord w
  | capitalised {c : Char} {rest : List Char} :
      kindOf c = .upper → (∀ d ∈ rest, kindOf d = .lower) → IsWord (c :: rest)

theorem isWord_singleton (c : Char) : IsWord [c] := by
  cases hc : kindOf c with
  | digit =>
      exact .digits (List.forall_mem_singleton.2 hc)
  | upper =>
      exact .capitals (List.forall_mem_singleton.2 hc)
  | lower =>
      exact .smalls (List.forall_mem_singleton.2 hc)

/-- One more character in front of a word that the rule does not part from it. -/
theorem IsWord.cons (hapart : ¬ Parts (kindOf a) (kindOf b) (rest.head?.map kindOf)) :
    IsWord (b :: rest) → IsWord (a :: b :: rest) := by
  intro h
  cases h with
  | digits hall =>
      have hb := hall b List.mem_cons_self
      have ha : kindOf a = .digit := by
        rw [hb] at hapart
        cases ha : kindOf a <;> simp [ha, Parts] at hapart ⊢
      exact .digits (List.forall_mem_cons.2 ⟨ha, hall⟩)
  | capitals hall =>
      have hb := hall b List.mem_cons_self
      have ha : kindOf a = .upper := by
        rw [hb] at hapart
        cases ha : kindOf a <;> simp [ha, Parts] at hapart ⊢
      exact .capitals (List.forall_mem_cons.2 ⟨ha, hall⟩)
  | smalls hall =>
      have hb := hall b List.mem_cons_self
      rw [hb] at hapart
      cases ha : kindOf a with
      | digit =>
          simp [ha, Parts] at hapart
      | upper =>
          exact .capitalised ha hall
      | lower =>
          exact .smalls (List.forall_mem_cons.2 ⟨ha, hall⟩)
  | capitalised hb hsmall =>
      have ha : kindOf a = .upper := by
        rw [hb] at hapart
        cases ha : kindOf a <;> simp [ha, Parts] at hapart ⊢
      cases rest with
      | nil =>
          exact .capitals (by simp [ha, hb])
      | cons d rest =>
          -- A capital in front would leave the other one to the small letters.
          have hd := hsmall d List.mem_cons_self
          simp [ha, hb, hd, Parts] at hapart

/-- What the rule parts nowhere is a word. -/
theorem isWord_of_unbroken : Unbroken w → IsWord w := by
  intro h
  induction w with
  | nil =>
      exact .digits (List.forall_mem_nil _)
  | cons a rest ih =>
      cases rest with
      | nil =>
          exact isWord_singleton a
      | cons b rest =>
          have hrest : Unbroken (b :: rest) := by
            intro i hi
            exact h (1 + i) ((partsAt_append_right [a] (b :: rest) i).2 hi)
          have hapart : ¬ Parts (kindOf a) (kindOf b) (rest.head?.map kindOf) := by
            intro hparts
            exact h 0 ((partsAt_concat [] a b rest).2 hparts)
          exact (ih hrest).cons hapart

/-- Where words begin where the rule says, the rule parts none of them. -/
theorem unbroken_of_mem (hne : [] ∉ ws) (hws : ∀ i, BeginsAt ws (i + 1) ↔ PartsAt ws.flatten i) :
    ∀ w ∈ ws, Unbroken w := by
  intro w hw i hparts
  obtain ⟨front, back, rfl⟩ := List.append_of_mem hw
  have hlt := hparts.lt
  -- A boundary inside of `w` is one of the whole text, so that a word would begin there.
  have hbegins : BeginsAt (front ++ w :: back) (front.flatten.length + (i + 1)) := by
    refine (hws (front.flatten.length + i)).2 ?_
    rw [List.flatten_append, List.flatten_cons]
    exact (partsAt_append_right _ _ i).2 (hparts.append back.flatten)
  have hinside : BeginsAt (w :: back) (i + 1) := by
    clear hws hw
    induction front with
    | nil =>
        simpa using hbegins
    | cons u front ih =>
        rw [List.cons_append, List.mem_cons, not_or] at hne
        refine ih hne.2 ((beginsAt_behind (Ne.symm hne.1)).1 ?_)
        simpa [Nat.add_assoc] using hbegins
  exact not_beginsAt_inside hlt hinside

/-- A run is cut into words that are not empty and that make up the run when put together again.  One begins
behind a character if and only if the rule parts that character from the next.  Each is of one of the four
forms. -/
theorem splitRun_boundaries (cs : List Char) :
    [] ∉ splitRun cs ∧ (splitRun cs).flatten = cs ∧
      (∀ i, BeginsAt (splitRun cs) (i + 1) ↔ PartsAt cs i) ∧ ∀ w ∈ splitRun cs, IsWord w := by
  have hne : [] ∉ splitRun cs := fun hmem => ne_nil_of_mem_splitRun hmem rfl
  have hbegins : ∀ i, BeginsAt (splitRun cs) (i + 1) ↔ PartsAt (splitRun cs).flatten i := by
    rw [flatten_splitRun]
    exact beginsAt_splitRun cs
  refine ⟨hne, flatten_splitRun cs, beginsAt_splitRun cs, fun w hw => ?_⟩
  apply isWord_of_unbroken
  exact unbroken_of_mem hne hbegins w hw

/-- A run with an acronym in front of a capitalised word, and a digit. -/
def acronymRun : List Char :=
  "HTTPServer2x".toList

/-- The last capital of the acronym goes with the small letters. -/
theorem acronymRun_boundaries :
    PartsAt acronymRun 3 ∧ BeginsAt (splitRun acronymRun) 4 ∧
      "Server".toList ∈ splitRun acronymRun ∧ IsWord "Server".toList := by
  obtain ⟨-, -, hbegins, hwords⟩ := splitRun_boundaries acronymRun
  have hparts : PartsAt acronymRun 3 := ⟨'P', 'S', by decide, by decide, by decide⟩
  have hmem : "Server".toList ∈ splitRun acronymRun := by decide
  exact ⟨hparts, (hbegins 3).2 hparts, hmem, hwords _ hmem⟩

end Naming
end ApiView
