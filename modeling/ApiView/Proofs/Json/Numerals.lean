import ApiView.Proofs.Json.Lexemes
import ApiView.Yaml.Form

/-!
# Numerals — the words and numbers that are read

Behind a sign a number has a whole part, then perhaps a fraction and perhaps an exponent.  The reader
takes each of them as far as it goes, and this file says what it has taken then:

* `IsWhole`, `Exponent`, `Numeral`: the parts of numbers, and words and numbers with what they mean;
* `numeral_of_readPlain`: the reader takes nothing else;
* `Numeral.isPlain`: a word or number is a single piece of its text;
* `exponent_of_portable`: what a number looks like that both formats read alike.
-/

namespace ApiView
namespace Json

/-! ## Shapes -/

/-- A row of digits that does not begin with a zero, unless it is one. -/
structure IsWhole (whole : List Char) : Prop where
  nonempty : whole ≠ []
  digits : ∀ c ∈ whole, isDigit c = true
  zero : whole.head? = some '0' → whole = ['0']

/-- What a sign is written as. -/
def minus (negative : Bool) : List Char :=
  if negative then ['-'] else []

/-- What a fraction is written as. -/
def pointed (fraction : List Char) : List Char :=
  if fraction.isEmpty then [] else '.' :: fraction

/-- What an exponent is written as, if there is one. -/
inductive Exponent : List Char → Option Int → Prop
  | none : Exponent [] none
  | bare {mark : Char} {digits : List Char} :
      (mark = 'e' ∨ mark = 'E') → digits ≠ [] → (∀ c ∈ digits, isDigit c = true) →
        Exponent (mark :: digits) (some (digitsValue digits))
  | signed {mark : Char} {digits : List Char} (negative : Bool) :
      (mark = 'e' ∨ mark = 'E') → digits ≠ [] → (∀ c ∈ digits, isDigit c = true) →
        Exponent (mark :: (if negative then '-' else '+') :: digits)
          (some (if negative then -(digitsValue digits : Int) else digitsValue digits))

/-- A word or number, and what it means. -/
inductive Numeral : List Char → Scalar → Prop
  | word {word : List Char} {s : Scalar} :
      (word, s) ∈ words → Numeral word s
  | integer {whole : List Char} (negative : Bool) :
      IsWhole whole → whole.length ≤ maxDigits →
        Numeral (minus negative ++ whole)
          (.int (if negative then -(digitsValue whole : Int) else digitsValue whole))
  | decimal {whole fraction exponent : List Char} {e? : Option Int} (negative : Bool) :
      IsWhole whole → (∀ c ∈ fraction, isDigit c = true) → Exponent exponent e? →
        ¬ (fraction = [] ∧ e? = none) →
          Numeral (minus negative ++ (whole ++ (pointed fraction ++ exponent)))
            (.float (Binary64.ofDecimal negative (digitsValue (whole ++ fraction))
              (e?.getD 0 - fraction.length)))

/-! ## What the reader takes -/

theorem span_cases {p : Char → Bool} {cs taken left : List Char} :
    cs.span p = (taken, left) → cs = taken ++ left ∧ ∀ c ∈ taken, p c = true := by
  intro h
  rw [List.span_eq_takeWhile_dropWhile] at h
  cases h
  exact ⟨(List.takeWhile_append_dropWhile ..).symm, fun c hc => List.mem_takeWhile_imp hc⟩

/-- A row is taken up to the first character that is not wanted. -/
theorem span_append {p : Char → Bool} {taken left : List Char} (htaken : ∀ c ∈ taken, p c = true)
    (hleft : ∀ c ∈ left.head?, p c = false) : (taken ++ left).span p = (taken, left) := by
  have hstop : left.takeWhile p = [] ∧ left.dropWhile p = left := by
    cases left with
    | nil =>
        exact ⟨rfl, rfl⟩
    | cons c left =>
        have hc := hleft c rfl
        exact ⟨List.takeWhile_cons_of_neg (by simp [hc]), List.dropWhile_cons_of_neg (by simp [hc])⟩
  rw [List.span_eq_takeWhile_dropWhile, List.takeWhile_append_of_pos htaken,
    List.dropWhile_append_of_pos htaken, hstop.1, hstop.2, List.append_nil]

theorem isWhole_of_readWhole {cs whole left : List Char} :
    readWhole cs = some (whole, left) → cs = whole ++ left ∧ IsWhole whole := by
  intro h
  unfold readWhole at h
  split at h
  · cases h
    refine ⟨rfl, by simp, ?_, fun _ => rfl⟩
    simp [isDigit]
  · rename_i c rest hzero
    split_ifs at h with hc
    have hspan : (c :: rest).span isDigit = (whole, left) := Option.some.inj h
    obtain ⟨hcs, hdigits⟩ := span_cases hspan
    rw [List.span_eq_takeWhile_dropWhile, List.takeWhile_cons_of_pos hc] at hspan
    have hwhole := (Prod.mk.inj hspan).1
    refine ⟨hcs, by simp [← hwhole], hdigits, ?_⟩
    rw [← hwhole]
    intro hhead
    cases hhead
    exact absurd rfl hzero
  · cases h

theorem pointed_of_readFraction {cs fraction left : List Char} :
    readFraction cs = (fraction, left) →
      cs = pointed fraction ++ left ∧ ∀ c ∈ fraction, isDigit c = true := by
  intro h
  unfold readFraction at h
  split at h
  · split at h
    · cases h
      exact ⟨rfl, nofun⟩
    · rename_i digits left' hnonempty hspan
      cases h
      obtain ⟨hrest, hdigits⟩ := span_cases hspan
      have hne : fraction ≠ [] := hnonempty
      refine ⟨?_, hdigits⟩
      rw [pointed, if_neg (by simpa using hne), hrest]
      rfl
  · cases h
    exact ⟨rfl, nofun⟩

theorem exponent_of_readExponent {cs left : List Char} {e? : Option Int} :
    readExponent cs = (e?, left) → ∃ exponent, cs = exponent ++ left ∧ Exponent exponent e? := by
  intro h
  unfold readExponent at h
  split at h
  · rename_i mark rest
    split_ifs at h with hmark
    · have hmark : mark = 'e' ∨ mark = 'E' := by simpa using hmark
      split at h
      rename_i negative body hsign
      split at h
      · cases h
        exact ⟨[], rfl, .none⟩
      · rename_i digits left' hnonempty hspan
        cases h
        obtain ⟨hbody, hdigits⟩ := span_cases hspan
        have hne : digits ≠ [] := hnonempty
        -- One case for each sign, and one without.
        split at hsign
        · cases hsign
          exact ⟨_, by rw [hbody]; rfl, .signed true hmark hne hdigits⟩
        · cases hsign
          exact ⟨_, by rw [hbody]; rfl, .signed false hmark hne hdigits⟩
        · cases hsign
          exact ⟨_, by rw [hbody]; rfl, .bare hmark hne hdigits⟩
    · cases h
      exact ⟨[], rfl, .none⟩
  · cases h
    exact ⟨[], rfl, .none⟩

/-- What is read as a number is a numeral of it. -/
theorem numeral_of_readNumber {cs left : List Char} {v : Value} :
    readNumber cs = some (.ok (v, left)) →
      ∃ text s, cs = text ++ left ∧ v = .scalar s ∧ Numeral text s := by
  intro h
  unfold readNumber at h
  split at h
  rename_i negative body hsign
  have hcs : cs = minus negative ++ body := by
    split at hsign
    · cases hsign
      rfl
    · cases hsign
      rfl
  split at h
  · cases h
  · rename_i whole afterWhole hwhole
    obtain ⟨hbody, hwhole⟩ := isWhole_of_readWhole hwhole
    dsimp only at h
    cases hfraction : readFraction afterWhole with
    | mk fraction afterFraction =>
        cases hexponent : readExponent afterFraction with
        | mk e? rest =>
            obtain ⟨hafterWhole, hdigits⟩ := pointed_of_readFraction hfraction
            obtain ⟨exponent, hafterFraction, hshape⟩ := exponent_of_readExponent hexponent
            simp only [hfraction, hexponent] at h
            split at h
            · rename_i hnone
              obtain ⟨rfl, rfl⟩ : fraction = [] ∧ e? = none := by simpa using hnone
              split at h
              · cases h
              · rename_i hlength
                cases h
                cases hshape
                refine ⟨_, _, ?_, rfl, .integer negative hwhole (Nat.not_lt.1 hlength)⟩
                rw [hcs, hbody, hafterWhole, hafterFraction]
                simp [pointed]
            · rename_i hsome
              cases h
              have hsome : ¬ (fraction = [] ∧ e? = none) := by simpa using hsome
              refine ⟨_, _, ?_, rfl, .decimal negative hwhole hdigits hshape hsome⟩
              rw [hcs, hbody, hafterWhole, hafterFraction]
              simp

/-- A leaf without quotes is a word or a number. -/
theorem numeral_of_readPlain {cs left : List Char} {v : Value} :
    readPlain cs = .ok (v, left) → ∃ text s, cs = text ++ left ∧ v = .scalar s ∧ Numeral text s := by
  intro h
  unfold readPlain at h
  split at h
  · rename_i s rest hword
    cases h
    obtain ⟨⟨word, s'⟩, hmem, hdrop⟩ := List.exists_of_findSome?_eq_some hword
    obtain ⟨rest', hdrop, hpair⟩ := Option.map_eq_some_iff.1 hdrop
    cases hpair
    exact ⟨word, s, eq_append_of_dropWord? hdrop, rfl, .word hmem⟩
  · cases hnumber : readNumber cs with
    | none =>
        rw [hnumber] at h
        cases h
    | some result =>
        rw [hnumber] at h
        exact numeral_of_readNumber (hnumber.trans (congrArg some h))

/-! ## Characters -/

/-- A digit is one of ten characters. -/
theorem mem_of_isDigit {c : Char} (h : isDigit c = true) : c ∈ "0123456789".toList := by
  rw [isDigit, Bool.and_eq_true, decide_eq_true_eq, decide_eq_true_eq] at h
  obtain ⟨hlow, hhigh⟩ : 48 ≤ c.toNat ∧ c.toNat ≤ 57 := h
  have hall : ∀ n ≤ 57, 48 ≤ n → Char.ofNat n ∈ "0123456789".toList := by decide
  rw [← Char.ofNat_toNat c]
  exact hall _ hhigh hlow

/-- What holds of the ten digits holds of every digit. -/
theorem of_isDigit {p : Char → Bool} (h : "0123456789".toList.all p = true) {c : Char}
    (hc : isDigit c = true) : p c = true :=
  List.all_eq_true.1 h c (mem_of_isDigit hc)

theorem Exponent.isNumberChar {exponent : List Char} {e? : Option Int} :
    Exponent exponent e? → ∀ c ∈ exponent, isNumberChar c = true := by
  have hdigit : ∀ c, isDigit c = true → Json.isNumberChar c = true := by
    intro c hc
    simp [Json.isNumberChar, hc]
  intro h
  cases h with
  | none =>
      exact nofun
  | bare hmark _ hdigits =>
      refine List.forall_mem_cons.2 ⟨?_, fun c hc => hdigit c (hdigits c hc)⟩
      rcases hmark with rfl | rfl <;> rfl
  | signed negative hmark _ hdigits =>
      refine List.forall_mem_cons.2 ⟨?_, List.forall_mem_cons.2 ⟨?_, fun c hc => hdigit c (hdigits c hc)⟩⟩
      · rcases hmark with rfl | rfl <;> rfl
      · cases negative <;> rfl

/-- The characters of a number, and those of them in front of its exponent. -/
theorem front_isNumberChar {whole fraction : List Char} (negative : Bool) (hwhole : IsWhole whole)
    (hfraction : ∀ c ∈ fraction, isDigit c = true) :
    ∀ c ∈ minus negative ++ (whole ++ pointed fraction), isNumberChar c = true ∧ c ≠ 'e' ∧ c ≠ 'E' := by
  have hdigit : ∀ c, isDigit c = true → isNumberChar c = true ∧ c ≠ 'e' ∧ c ≠ 'E' := by
    intro c hc
    have hall := of_isDigit (p := fun c => isNumberChar c && c != 'e' && c != 'E') (by decide) hc
    simpa [and_assoc] using hall
  intro c hc
  rcases List.mem_append.1 hc with hc | hc
  · cases negative with
    | true =>
        obtain rfl := List.mem_singleton.1 hc
        decide
    | false =>
        cases hc
  · rcases List.mem_append.1 hc with hc | hc
    · exact hdigit c (hwhole.digits c hc)
    · unfold pointed at hc
      split_ifs at hc
      · cases hc
      · rcases List.mem_cons.1 hc with rfl | hc
        · decide
        · exact hdigit c (hfraction c hc)

theorem integer_isNumberChar {whole : List Char} (negative : Bool) (hwhole : IsWhole whole) :
    ∀ c ∈ minus negative ++ whole, isNumberChar c = true := by
  intro c hc
  have hnone : ∀ c ∈ ([] : List Char), isDigit c = true := nofun
  have hfront := front_isNumberChar negative hwhole hnone c
  rw [show pointed [] = [] from rfl, List.append_nil] at hfront
  exact (hfront hc).1

/-- A word or number has no blanks, quotes or marks. -/
theorem Numeral.isPlain {text : List Char} {s : Scalar} :
    Numeral text s → text ≠ [] ∧ ∀ c ∈ text, isPlainChar c = true := by
  have hnumber : ∀ c, isNumberChar c = true → isPlainChar c = true := by
    intro c hc
    simp only [isNumberChar, Bool.or_eq_true, beq_iff_eq] at hc
    rcases hc with ((((hc | rfl) | rfl) | rfl) | rfl) | rfl
    · exact of_isDigit (by decide) hc
    all_goals rfl
  intro h
  cases h with
  | word hmem =>
      have hwords : ∀ entry ∈ words, entry.1 ≠ [] ∧ entry.1.all isPlainChar = true := by decide
      exact ⟨(hwords _ hmem).1, List.all_eq_true.1 (hwords _ hmem).2⟩
  | integer negative hwhole _ =>
      exact ⟨by simp [hwhole.nonempty], fun c hc => hnumber c (integer_isNumberChar negative hwhole c hc)⟩
  | decimal negative hwhole hfraction hexponent _ =>
      refine ⟨by simp [hwhole.nonempty], fun c hc => hnumber c ?_⟩
      rw [← List.append_assoc, ← List.append_assoc] at hc
      rcases List.mem_append.1 hc with hc | hc
      · rw [List.append_assoc] at hc
        exact (front_isNumberChar negative hwhole hfraction c hc).1
      · exact hexponent.isNumberChar c hc

/-! ## Numbers that both formats read alike -/

/-- An exponent of a portable number has a sign, and there is a point in front of it. -/
theorem exponent_of_portable {front exponent : List Char} {e? : Option Int}
    (hfront : ∀ c ∈ front, c ≠ 'e' ∧ c ≠ 'E') (h : Exponent exponent e?)
    (hportable : hasPortableExponent (front ++ exponent) = true) :
    Yaml.isExponent exponent = true ∧ (e? = none ∨ '.' ∈ front) := by
  have hdrop : (front ++ exponent).dropWhile (fun c => !(c == 'e' || c == 'E')) =
      exponent.dropWhile fun c => !(c == 'e' || c == 'E') :=
    List.dropWhile_append_of_pos fun c hc => by simp [hfront c hc]
  unfold hasPortableExponent at hportable
  rw [hdrop] at hportable
  cases h with
  | none =>
      exact ⟨rfl, .inl rfl⟩
  | @bare mark digits hmark hne hdigits =>
      -- The first digit stands where the sign should be.
      obtain ⟨d, more, rfl⟩ := List.exists_cons_of_ne_nil hne
      have hd := of_isDigit (p := fun c => !(c == '+' || c == '-')) (by decide)
        (hdigits d List.mem_cons_self)
      have hmark : (mark == 'e' || mark == 'E') = true := by simpa using hmark
      simp only [List.dropWhile_cons, hmark, Bool.not_true, Bool.false_eq_true, if_false,
        Bool.and_eq_true] at hportable
      rw [hportable.2] at hd
      cases hd
  | @signed mark digits negative hmark hne hdigits =>
      have hmark' : (mark == 'e' || mark == 'E') = true := by simpa using hmark
      simp only [List.dropWhile_cons, hmark', Bool.not_true, Bool.false_eq_true, if_false,
        Bool.and_eq_true, List.contains_iff_mem] at hportable
      have hpoint : ∀ c ∈ mark :: (if negative then '-' else '+') :: digits, c ≠ '.' := by
        refine List.forall_mem_cons.2 ⟨?_, List.forall_mem_cons.2 ⟨?_, ?_⟩⟩
        · rcases hmark with rfl | rfl <;> decide
        · cases negative <;> decide
        · exact fun c hc => ne_of_isDigit (hdigits c hc) rfl
      refine ⟨?_, .inr ((List.mem_append.1 hportable.1).resolve_right fun hin => hpoint _ hin rfl)⟩
      have hall : digits.all Yaml.isDigit = true := List.all_eq_true.2 hdigits
      simp only [Yaml.isExponent, hmark', hportable.2, hall, Bool.and_true]
      simpa using hne

end Json
end ApiView
