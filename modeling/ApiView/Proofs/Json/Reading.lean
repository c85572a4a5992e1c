import Mathlib.Data.List.TakeWhile
import ApiView.Proofs.Json.Numbers
import ApiView.Proofs.Json.Strings
import ApiView.Proofs.Members

/-!
# Reading — what a text denotes is read

`Json.readValue` follows the grammar, but it is a function with a bound on its depth, and it takes as
much as it can.  This file puts a relation beside it that says which text is written for which value,
with blanks wherever the grammar allows them, and shows that the reader finds that value:

* `Part`, `Denotes`: values, items and members, and the texts that they are written as;
* `Denotes.starts`: no part begins with a blank, a closing bracket or a byte order mark;
* `Denotes.isRead`: what a text denotes is read from it, whatever follows;
* `read_of_denotes`: a whole text.
-/

namespace ApiView
namespace Json

/-! ## What a text denotes -/

/-- What a text is written for: a value, or what stands between brackets with the closing one. -/
inductive Part
  | value (v : Value)
  | items (items : List Value)
  | members (members : Entries)

/-- A row of blanks. -/
def Blanks (cs : List Char) : Prop :=
  ∀ c ∈ cs, isBlank c = true

/-- A text in quotes from which the text itself is read back. -/
inductive Quotes : String → List Char → Prop
  | intro {escape : Nat → List Char} {s : String} :
      KeepsCharacters escape → Text.isProper s = true → Quotes s (quoted escape s)

/-- A part is written as a text. -/
inductive Denotes : Part → List Char → Prop
  | word {word : List Char} {s : Scalar} :
      (word, s) ∈ words → Denotes (.value (.scalar s)) word
  | integer {i : Int} :
      (Scalar.int i).isLong = false → Denotes (.value (.int i)) (intText i)
  | string {s : String} {text : List Char} :
      Quotes s text → Denotes (.value (.str s)) text
  | emptyList {blanks : List Char} :
      Blanks blanks → Denotes (.value (.list [])) ('[' :: (blanks ++ [']']))
  | list {items : List Value} {blanks text : List Char} :
      Blanks blanks → Denotes (.items items) text →
        Denotes (.value (.list items)) ('[' :: (blanks ++ text))
  | emptyMap {blanks : List Char} :
      Blanks blanks → Denotes (.value (.map [])) ('\x7b' :: (blanks ++ ['\x7d']))
  | map {members : Entries} {blanks text : List Char} :
      Blanks blanks → members.Named → Denotes (.members members) text →
        Denotes (.value (.map members)) ('\x7b' :: (blanks ++ text))
  | lastItem {v : Value} {text blanks : List Char} :
      Denotes (.value v) text → Blanks blanks → Denotes (.items [v]) (text ++ (blanks ++ [']']))
  | nextItem {v : Value} {items : List Value} {text blanks blanks' more : List Char} :
      Denotes (.value v) text → Blanks blanks → Blanks blanks' → Denotes (.items items) more →
        Denotes (.items (v :: items)) (text ++ (blanks ++ ',' :: (blanks' ++ more)))
  | lastMember {name : String} {v : Value} {key colon space text blanks : List Char} :
      Quotes name key → Blanks colon → Blanks space → Denotes (.value v) text → Blanks blanks →
        Denotes (.members [(.str name, v)])
          (key ++ (colon ++ ':' :: (space ++ (text ++ (blanks ++ ['\x7d'])))))
  | nextMember {name : String} {v : Value} {members : Entries}
      {key colon space text blanks blanks' more : List Char} :
      Quotes name key → Blanks colon → Blanks space → Denotes (.value v) text → Blanks blanks →
        Blanks blanks' → Denotes (.members members) more →
          Denotes (.members ((.str name, v) :: members))
            (key ++ (colon ++ ':' :: (space ++ (text ++ (blanks ++ ',' :: (blanks' ++ more))))))

/-! ## Where a part starts -/

/-- A character that can be the first one of a part. -/
def startsPart (c : Char) : Bool :=
  !(isBlank c || c == '\ufeff' || c == ']' || c == '\x7d')

/-- What starts a part is no blank, no closing bracket and no byte order mark. -/
theorem startsPart_iff (c : Char) :
    startsPart c = true ↔ isBlank c = false ∧ c ≠ '\ufeff' ∧ c ≠ ']' ∧ c ≠ '\x7d' := by
  simp [startsPart, and_assoc]

/-- Digits are told from all other characters. -/
theorem ne_of_isDigit {c d : Char} : isDigit c = true → isDigit d = false → c ≠ d := by
  rintro hc hd rfl
  rw [hc] at hd
  cases hd

/-- The first character of an integer, and what follows a sign. -/
theorem exists_cons_intText (i : Int) :
    ∃ c more, intText i = c :: more ∧
      (isDigit c = true ∨ c = '-' ∧ ∃ d more', more = d :: more' ∧ isDigit d = true) := by
  obtain ⟨d, more, hcons⟩ :=
    List.exists_cons_of_ne_nil (Nat.toDigits_ne_nil (b := 10) (n := i.natAbs))
  have hdigit : isDigit d = true :=
    isDigit_of_mem_toDigits (n := i.natAbs) (by rw [hcons]; exact List.mem_cons_self)
  rcases intText_cases i with ⟨_, htext⟩ | ⟨_, htext⟩
  · exact ⟨d, more, htext.trans hcons, .inl hdigit⟩
  · exact ⟨'-', _, htext, .inr ⟨rfl, d, more, hcons, hdigit⟩⟩

theorem startsPart_of_isDigit {c : Char} (h : isDigit c = true) : startsPart c = true := by
  have hblank : isBlank c = false := by
    rw [isBlank]
    simp [ne_of_isDigit h (d := ' ') rfl, ne_of_isDigit h (d := '\t') rfl,
      ne_of_isDigit h (d := '\n') rfl, ne_of_isDigit h (d := '\r') rfl]
  exact (startsPart_iff c).2
    ⟨hblank, ne_of_isDigit h rfl, ne_of_isDigit h rfl, ne_of_isDigit h rfl⟩

/-- No part begins with a blank, a closing bracket or a byte order mark. -/
theorem Denotes.starts {part : Part} {text : List Char} :
    Denotes part text → ∃ c more, text = c :: more ∧ startsPart c = true := by
  have hquotes : ∀ {s key}, Quotes s key → ∃ more, key = '"' :: more := by
    rintro _ _ ⟨_, _⟩
    exact ⟨_, rfl⟩
  intro h
  induction h with
  | @word word s hmem =>
      have hwords : ∀ entry ∈ words, entry.1 ≠ [] ∧ startsPart (entry.1.headD ' ') = true := by
        decide
      obtain ⟨hne, hstarts⟩ := hwords _ hmem
      obtain ⟨c, more, rfl⟩ := List.exists_cons_of_ne_nil hne
      exact ⟨c, more, rfl, hstarts⟩
  | integer _ =>
      rename_i i _
      obtain ⟨c, more, htext, hdigit | ⟨rfl, _⟩⟩ := exists_cons_intText i
      · exact ⟨c, more, htext, startsPart_of_isDigit hdigit⟩
      · exact ⟨'-', more, htext, rfl⟩
  | string hs =>
      obtain ⟨more, rfl⟩ := hquotes hs
      exact ⟨_, _, rfl, rfl⟩
  | emptyList _ =>
      exact ⟨_, _, rfl, rfl⟩
  | list _ _ _ =>
      exact ⟨_, _, rfl, rfl⟩
  | emptyMap _ =>
      exact ⟨_, _, rfl, rfl⟩
  | map _ _ _ _ =>
      exact ⟨_, _, rfl, rfl⟩
  | lastItem _ _ ih =>
      obtain ⟨c, more, rfl, hc⟩ := ih
      exact ⟨c, _, rfl, hc⟩
  | nextItem _ _ _ _ ih _ =>
      obtain ⟨c, more, rfl, hc⟩ := ih
      exact ⟨c, _, rfl, hc⟩
  | lastMember hkey _ _ _ _ _ =>
      obtain ⟨more, rfl⟩ := hquotes hkey
      exact ⟨_, _, rfl, rfl⟩
  | nextMember hkey _ _ _ _ _ _ _ _ =>
      obtain ⟨more, rfl⟩ := hquotes hkey
      exact ⟨_, _, rfl, rfl⟩

/-! ## Blanks -/

/-- Blanks are skipped up to the first other character. -/
theorem skipBlanks_append {blanks : List Char} (hblanks : Blanks blanks) {c : Char}
    (hc : isBlank c = false) (cs : List Char) : skipBlanks (blanks ++ c :: cs) = c :: cs := by
  rw [skipBlanks, List.dropWhile_append_of_pos hblanks, List.dropWhile_cons_of_neg (by simp [hc])]

/-- Blanks in front of what ends a value end it as well. -/
theorem endsValue_append {blanks : List Char} (hblanks : Blanks blanks) {c : Char}
    (hc : endsValue c = true) (cs : List Char) : EndsValue (blanks ++ c :: cs) := by
  cases blanks with
  | nil =>
      exact EndsValue.cons hc cs
  | cons b blanks =>
      have hb : endsValue b = true := by
        rw [endsValue, hblanks b List.mem_cons_self]
        rfl
      exact EndsValue.cons hb (blanks ++ c :: cs)

/-! ## Leaves -/

/-- A word is read, whatever follows. -/
theorem readPlain_word {word : List Char} {s : Scalar} (h : (word, s) ∈ words) (rest : List Char) :
    readPlain (word ++ rest) = .ok (.scalar s, rest) := by
  simp only [words, List.mem_cons, List.not_mem_nil, or_false, Prod.mk.injEq] at h
  rcases h with ⟨rfl, rfl⟩ | ⟨rfl, rfl⟩ | ⟨rfl, rfl⟩ | ⟨rfl, rfl⟩ | ⟨rfl, rfl⟩ | ⟨rfl, rfl⟩
  all_goals
    rfl

theorem eq_append_of_dropWord? {word cs rest : List Char} :
    dropWord? word cs = some rest → cs = word ++ rest := by
  intro h
  induction word generalizing cs with
  | nil =>
      cases h
      rfl
  | cons w word ih =>
      cases cs with
      | nil =>
          cases h
      | cons c cs =>
          rw [dropWord?] at h
          by_cases hc : (w == c) = true
          · rw [if_pos hc] at h
            rw [List.cons_append, ih h, beq_iff_eq.1 hc]
          · rw [if_neg hc] at h
            cases h

/-- No integer begins like a word: one of its first two characters is a digit. -/
theorem dropWord?_intText {word : List Char} {s : Scalar} (h : (word, s) ∈ words) (i : Int)
    (rest : List Char) : dropWord? word (intText i ++ rest) = none := by
  have hdigit : ∃ c ∈ (intText i ++ rest).take 2, isDigit c = true := by
    obtain ⟨c, more, htext, hc | ⟨rfl, d, more, rfl, hd⟩⟩ := exists_cons_intText i
    · exact ⟨c, by rw [htext]; simp, hc⟩
    · exact ⟨d, by rw [htext]; simp, hd⟩
  have hwords : ∀ entry ∈ words,
      2 ≤ entry.1.length ∧ ((entry.1.take 2).all fun c => !isDigit c) = true := by
    decide
  obtain ⟨hlength, hplain⟩ := hwords _ h
  -- If a word were dropped, the integer would begin with it, but no word has a digit so early.
  rw [Option.eq_none_iff_forall_ne_some]
  intro left hleft
  rw [eq_append_of_dropWord? hleft, List.take_append_of_le_length hlength] at hdigit
  obtain ⟨c, hmem, hc⟩ := hdigit
  have hno := List.all_eq_true.1 hplain c hmem
  rw [hc] at hno
  cases hno

/-- A short integer is read, unless a number goes on behind it. -/
theorem readPlain_intText {i : Int} (hshort : (Scalar.int i).isLong = false) {rest : List Char}
    (hrest : EndsValue rest) : readPlain (intText i ++ rest) = .ok (.int i, rest) := by
  unfold readPlain
  split
  · rename_i hfound
    obtain ⟨⟨word, s⟩, hmem, hdrop⟩ := List.exists_of_findSome?_eq_some hfound
    dsimp only at hdrop
    rw [dropWord?_intText hmem i rest] at hdrop
    cases hdrop
  · rw [readNumber_intText hshort hrest]
    rfl

/-! ## One step of the reader -/

/-- A value that begins with neither a quote nor a bracket is a word or a number. -/
theorem readValue_plain {cs : List Char} {c : Char} {more : List Char} (hcs : cs = c :: more)
    (hquote : c ≠ '"') (hlist : c ≠ '[') (hmap : c ≠ '\x7b') (fuel : Nat) :
    readValue (fuel + 1) cs = readPlain cs := by
  subst hcs
  -- The last equation holds where none of the three openings does.
  exact readValue.eq_5 _ _ (by grind) (by grind) (by grind)

/-- A string is read as the text that it quotes. -/
theorem readValue_string {s : String} {text : List Char} (h : Quotes s text) (fuel : Nat)
    (rest : List Char) : readValue (fuel + 1) (text ++ rest) = .ok (.str s, rest) := by
  obtain ⟨hescape, hproper⟩ := h
  have hread := readString_quoted hescape rest hproper
  rw [quoted, List.cons_append, List.append_assoc, List.singleton_append, readValue.eq_2, hread]
  rfl

/-- A list with items is read item by item. -/
theorem readValue_list {fuel : Nat} {blanks : List Char} (hblanks : Blanks blanks) {c : Char}
    (hc : startsPart c = true) {cs rest : List Char} {items : List Value}
    (hitems : readItems fuel (c :: cs) = .ok (items, rest)) :
    readValue (fuel + 1) ('[' :: (blanks ++ c :: cs)) = .ok (.list items, rest) := by
  obtain ⟨hblank, _, hbracket, _⟩ := (startsPart_iff c).1 hc
  rw [readValue.eq_3, skipBlanks_append hblanks hblank]
  split
  · rename_i left heq
    exact absurd (List.cons.inj heq).1 hbracket
  · rw [hitems]
    rfl

/-- A mapping is read as its members, where their names are distinct. -/
theorem readValue_map {fuel : Nat} {blanks : List Char} (hblanks : Blanks blanks) {c : Char}
    (hc : startsPart c = true) {cs rest : List Char} {members : Entries} (hnamed : members.Named)
    (hmembers : readMembers fuel (c :: cs) = .ok (members, rest)) :
    readValue (fuel + 1) ('\x7b' :: (blanks ++ c :: cs)) = .ok (.map members, rest) := by
  obtain ⟨hblank, _, _, hbrace⟩ := (startsPart_iff c).1 hc
  rw [readValue.eq_4, skipBlanks_append hblanks hblank]
  split
  · rename_i left heq
    exact absurd (List.cons.inj heq).1 hbrace
  · have hsame := Entries.ofPairs_of_named hnamed
    simp only [hmembers, bind, Except.bind, hsame]
    rfl

/-- The last item of a list. -/
theorem readItems_last {fuel : Nat} {cs blanks rest : List Char} {v : Value}
    (hvalue : readValue fuel cs = .ok (v, blanks ++ ']' :: rest)) (hblanks : Blanks blanks) :
    readItems (fuel + 1) cs = .ok ([v], rest) := by
  have hskip : skipBlanks (blanks ++ ']' :: rest) = ']' :: rest := skipBlanks_append hblanks rfl rest
  rw [readItems.eq_2, hvalue]
  simp only [bind, Except.bind, hskip]
  rfl

/-- An item with others behind it. -/
theorem readItems_next {fuel : Nat} {cs blanks blanks' rest left : List Char} {v : Value}
    {items : List Value} (hvalue : readValue fuel cs = .ok (v, blanks ++ ',' :: (blanks' ++ rest)))
    (hblanks : Blanks blanks) (hskip' : skipBlanks (blanks' ++ rest) = rest)
    (hitems : readItems fuel rest = .ok (items, left)) :
    readItems (fuel + 1) cs = .ok (v :: items, left) := by
  have hskip : skipBlanks (blanks ++ ',' :: (blanks' ++ rest)) = ',' :: (blanks' ++ rest) :=
    skipBlanks_append hblanks rfl _
  rw [readItems.eq_2, hvalue]
  simp only [bind, Except.bind, hskip, hskip', hitems]
  rfl

/-- The name of a member and its colon. -/
theorem readString_key {name : String} {key colon rest : List Char} (hkey : Quotes name key)
    (hcolon : Blanks colon) :
    ∃ cs left, key ++ (colon ++ ':' :: rest) = '"' :: cs ∧ readString cs = .ok (name, left) ∧
      skipBlanks left = ':' :: rest := by
  obtain ⟨hescape, hproper⟩ := hkey
  have hread := readString_quoted hescape (colon ++ ':' :: rest) hproper
  refine ⟨_, _, ?_, hread, skipBlanks_append hcolon rfl rest⟩
  rw [quoted, List.cons_append, List.append_assoc, List.singleton_append]

/-- The last member of a mapping. -/
theorem readMembers_last {fuel : Nat} {name : String} {v : Value}
    {key colon space text blanks rest : List Char} (hkey : Quotes name key) (hcolon : Blanks colon)
    (hspace : skipBlanks (space ++ text) = text)
    (hvalue : readValue fuel text = .ok (v, blanks ++ '\x7d' :: rest)) (hblanks : Blanks blanks) :
    readMembers (fuel + 1) (key ++ (colon ++ ':' :: (space ++ text))) =
      .ok ([(.str name, v)], rest) := by
  have hskip : skipBlanks (blanks ++ '\x7d' :: rest) = '\x7d' :: rest :=
    skipBlanks_append hblanks rfl rest
  obtain ⟨cs, left, hcs, hname, hleft⟩ := readString_key hkey hcolon
  rw [hcs, readMembers.eq_2, hname]
  simp only [bind, Except.bind, hleft, hspace, hvalue, hskip]
  rfl

/-- A member with others behind it. -/
theorem readMembers_next {fuel : Nat} {name : String} {v : Value} {members : Entries}
    {key colon space text blanks blanks' rest left : List Char} (hkey : Quotes name key)
    (hcolon : Blanks colon) (hspace : skipBlanks (space ++ text) = text)
    (hvalue : readValue fuel text = .ok (v, blanks ++ ',' :: (blanks' ++ rest)))
    (hblanks : Blanks blanks) (hskip' : skipBlanks (blanks' ++ rest) = rest)
    (hmembers : readMembers fuel rest = .ok (members, left)) :
    readMembers (fuel + 1) (key ++ (colon ++ ':' :: (space ++ text))) =
      .ok ((.str name, v) :: members, left) := by
  have hskip : skipBlanks (blanks ++ ',' :: (blanks' ++ rest)) = ',' :: (blanks' ++ rest) :=
    skipBlanks_append hblanks rfl _
  obtain ⟨cs, after, hcs, hname, hafter⟩ := readString_key hkey hcolon
  rw [hcs, readMembers.eq_2, hname]
  simp only [bind, Except.bind, hafter, hspace, hvalue, hskip, hskip', hmembers]
  rfl

/-! ## Reading what a text denotes -/

/-- A part is read from a text, whatever follows, if the bound on the depth is large enough. -/
def IsRead : Part → List Char → Prop
  | .value v, text => ∀ fuel rest, 2 * text.length < fuel → EndsValue rest →
      readValue fuel (text ++ rest) = .ok (v, rest)
  | .items items, text => ∀ fuel rest, 2 * text.length + 1 < fuel →
      readItems fuel (text ++ rest) = .ok (items, rest)
  | .members members, text => ∀ fuel rest, 2 * text.length + 1 < fuel →
      readMembers fuel (text ++ rest) = .ok (members, rest)

/-- The text of a part stays where it is when blanks are skipped. -/
theorem Denotes.skipBlanks {part : Part} {text blanks : List Char} (h : Denotes part text)
    (hblanks : Blanks blanks) (rest : List Char) :
    Json.skipBlanks (blanks ++ (text ++ rest)) = text ++ rest := by
  obtain ⟨c, more, rfl, hc⟩ := h.starts
  exact skipBlanks_append hblanks ((startsPart_iff c).1 hc).1 (more ++ rest)

theorem isRead_word {word : List Char} {s : Scalar} (hmem : (word, s) ∈ words) :
    IsRead (.value (.scalar s)) word := by
  rintro (_ | fuel) rest hfuel _
  · omega
  · have hfirst : ∀ entry ∈ words, entry.1.head? ≠ some '"' ∧ entry.1.head? ≠ some '[' ∧
        entry.1.head? ≠ some '\x7b' := by
      decide
    obtain ⟨hquote, hlist, hmap⟩ := hfirst _ hmem
    obtain ⟨c, more, htext, _⟩ := (Denotes.word hmem).starts
    have hcs : word ++ rest = c :: (more ++ rest) := by rw [htext, List.cons_append]
    rw [htext, List.head?_cons, ne_eq, Option.some.injEq] at hquote hlist hmap
    rw [readValue_plain hcs hquote hlist hmap, readPlain_word hmem]

/-- An integer with not too many digits is read as it is written. -/
theorem isRead_integer {i : Int} (hshort : (Scalar.int i).isLong = false) :
    IsRead (.value (.int i)) (intText i) := by
  rintro (_ | fuel) rest hfuel hrest
  · omega
  · obtain ⟨c, more, htext, hc⟩ := exists_cons_intText i
    have hcs : intText i ++ rest = c :: (more ++ rest) := by rw [htext, List.cons_append]
    have hplain : ∀ d, isDigit d = false → d ≠ '-' → c ≠ d := by
      intro d hd hsign
      rcases hc with hdigit | ⟨rfl, _⟩
      · exact ne_of_isDigit hdigit hd
      · exact hsign.symm
    have hread := readPlain_intText hshort hrest
    rw [readValue_plain hcs (hplain _ rfl (by decide)) (hplain _ rfl (by decide))
      (hplain _ rfl (by decide)), hread]

/-- What a text denotes is read from it.  A list or a mapping takes one level of the bound, and so does
each item, but a bracket or a comma goes with it. -/
theorem Denotes.isRead {part : Part} {text : List Char} : Denotes part text → IsRead part text := by
  intro h
  -- The induction is on how a part is written.  A reader of each kind spends one unit of fuel on its first
  -- character, and twice the length of the text covers all of them.
  induction h with
  | word hmem =>
      exact isRead_word hmem
  | integer hshort =>
      exact isRead_integer hshort
  | string hs =>
      rintro (_ | fuel) rest hfuel _
      · omega
      · exact readValue_string hs fuel rest
  | emptyList hblanks =>
      rintro (_ | fuel) rest hfuel _
      · omega
      · rw [List.cons_append, List.append_assoc, List.singleton_append, readValue.eq_3,
          skipBlanks_append hblanks rfl]
        rfl
  | @list items blanks text hblanks hitems ih =>
      rintro (_ | fuel) rest hfuel _
      · omega
      · -- The first item tells a filled list from an empty one.
        obtain ⟨c, more, rfl, hc⟩ := hitems.starts
        simp only [List.length_cons, List.length_append] at hfuel
        have hread := ih fuel rest (by rw [List.length_cons]; omega)
        rw [List.cons_append, List.append_assoc]
        exact readValue_list hblanks hc hread
  | emptyMap hblanks =>
      rintro (_ | fuel) rest hfuel _
      · omega
      · rw [List.cons_append, List.append_assoc, List.singleton_append, readValue.eq_4,
          skipBlanks_append hblanks rfl]
        rfl
  | @map members blanks text hblanks hnamed hmembers ih =>
      rintro (_ | fuel) rest hfuel _
      · omega
      · obtain ⟨c, more, rfl, hc⟩ := hmembers.starts
        simp only [List.length_cons, List.length_append] at hfuel
        have hread := ih fuel rest (by rw [List.length_cons]; omega)
        rw [List.cons_append, List.append_assoc]
        exact readValue_map hblanks hc hnamed hread
  | @lastItem v text blanks hvalue hblanks ih =>
      rintro (_ | fuel) rest hfuel
      · omega
      · have hends : EndsValue (blanks ++ ']' :: rest) := endsValue_append hblanks rfl rest
        simp only [List.length_append] at hfuel
        have hread := ih fuel _ (by omega) hends
        simp only [List.append_assoc, List.singleton_append]
        exact readItems_last hread hblanks
  | @nextItem v items text blanks blanks' more hvalue hblanks hblanks' hitems ih ihmore =>
      rintro (_ | fuel) rest hfuel
      · omega
      · have hends : EndsValue (blanks ++ ',' :: (blanks' ++ (more ++ rest))) :=
          endsValue_append hblanks rfl _
        simp only [List.length_append, List.length_cons] at hfuel
        have hread := ih fuel _ (by omega) hends
        have hmore := ihmore fuel rest (by omega)
        simp only [List.append_assoc, List.cons_append]
        exact readItems_next hread hblanks (hitems.skipBlanks hblanks' rest) hmore
  | @lastMember name v key colon space text blanks hkey hcolon hspace hvalue hblanks ih =>
      rintro (_ | fuel) rest hfuel
      · omega
      · have hends : EndsValue (blanks ++ '\x7d' :: rest) := endsValue_append hblanks rfl rest
        simp only [List.length_append, List.length_cons] at hfuel
        have hread := ih fuel _ (by omega) hends
        simp only [List.append_assoc, List.cons_append, List.nil_append]
        exact readMembers_last hkey hcolon (hvalue.skipBlanks hspace _) hread hblanks
  | @nextMember name v members key colon space text blanks blanks' more hkey hcolon hspace hvalue
      hblanks hblanks' hmembers ih ihmore =>
      rintro (_ | fuel) rest hfuel
      · omega
      · have hends : EndsValue (blanks ++ ',' :: (blanks' ++ (more ++ rest))) :=
          endsValue_append hblanks rfl _
        simp only [List.length_append, List.length_cons] at hfuel
        have hread := ih fuel _ (by omega) hends
        have hmore := ihmore fuel rest (by omega)
        simp only [List.append_assoc, List.cons_append]
        exact readMembers_next hkey hcolon (hvalue.skipBlanks hspace _) hread hblanks
          (hmembers.skipBlanks hblanks' rest) hmore

/-! ## Whole texts -/

/-- A text that denotes a value, with blanks around it, is read as that value. -/
theorem read_of_denotes {v : Value} {text before after : List Char} (h : Denotes (.value v) text)
    (hbefore : Blanks before) (hafter : Blanks after) :
    read (before ++ (text ++ after)) = .ok v := by
  -- Neither blanks nor the start of a value is a byte order mark.
  have hmark : ¬ (before ++ (text ++ after)).head? = some '\ufeff' := by
    cases before with
    | nil =>
        obtain ⟨c, more, rfl, hc⟩ := h.starts
        have hne := ((startsPart_iff c).1 hc).2.1
        simpa using hne
    | cons b before =>
        have hb := hbefore b List.mem_cons_self
        rw [List.cons_append, List.head?_cons, Option.some.injEq]
        rintro rfl
        cases hb
  have hends : EndsValue after := by
    intro c hc
    rw [endsValue, hafter c (List.mem_of_mem_head? hc)]
    rfl
  have hskip := h.skipBlanks hbefore after
  have hleft : skipBlanks after = [] := List.dropWhile_eq_nil_iff.2 hafter
  -- The whole text gives enough fuel for the value in it.
  have hread : readValue (2 * (before ++ (text ++ after)).length + 2) (text ++ after) =
      .ok (v, after) := by
    refine h.isRead _ after ?_ hends
    simp only [List.length_append]
    omega
  rw [read]
  simp only [beq_eq_false_iff_ne.2 hmark, hskip, hread, hleft, bind, Except.bind]
  rfl

end Json
end ApiView
