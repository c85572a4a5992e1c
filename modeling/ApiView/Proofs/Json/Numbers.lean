import Mathlib.Data.List.TakeDrop
import ApiView.Json.Reader
import ApiView.Json.Writer

/-!
# Numbers — integers are read back

An integer is written in decimal, and the reader takes digits as long as there are any.  What follows a
number must therefore not look like a part of it:

* `EndsValue`: a rest that no number goes on in;
* `digitsValue_toDigits`, `readWhole_toDigits`: decimal digits are read back;
* `readNumber_intText`: an integer is read back, unless it has too many digits.
-/

namespace ApiView
namespace Json

/-! ## What follows a value -/

/-- Characters that may follow a value: blanks, and what separates or ends values. -/
def endsValue (c : Char) : Bool :=
  isBlank c || c == ',' || c == ']' || c == '\x7d'

/-- A rest in which no number goes on. -/
def EndsValue (rest : List Char) : Prop :=
  ∀ c ∈ rest.head?, endsValue c = true

theorem EndsValue.cons {c : Char} (h : endsValue c = true) (rest : List Char) :
    EndsValue (c :: rest) := by
  intro d hd
  cases hd
  exact h

/-- What ends a value is no part of a number. -/
theorem noPart_of_endsValue {c : Char} :
    endsValue c = true → isDigit c = false ∧ c ≠ '.' ∧ c ≠ 'e' ∧ c ≠ 'E' := by
  intro h
  simp only [endsValue, isBlank, Bool.or_eq_true, beq_iff_eq] at h
  rcases h with ((((((rfl | rfl) | rfl) | rfl) | rfl) | rfl) | rfl)
  all_goals
    decide

/-! ## Digits -/

theorem isDigit_of_mem_toDigits {n : Nat} {c : Char} : c ∈ Nat.toDigits 10 n → isDigit c = true := by
  intro h
  have hdigit := Nat.isDigit_of_mem_toDigits (by decide) (by decide) h
  rw [Char.isDigit, Bool.and_eq_true, decide_eq_true_eq, decide_eq_true_eq] at hdigit
  rw [isDigit, Bool.and_eq_true, decide_eq_true_eq, decide_eq_true_eq]
  exact hdigit

/-- The digits of a number name it. -/
theorem digitsValue_toDigits (n : Nat) : digitsValue (Nat.toDigits 10 n) = n := by
  have hfold : digitsValue (Nat.toDigits 10 n) = Nat.ofDigitChars 10 (Nat.toDigits 10 n) 0 := by
    rw [digitsValue, Nat.ofDigitChars_eq_foldl]
    simp only [Nat.mul_comm]
    rfl
  rw [hfold, Nat.ofDigitChars_ten_toDigits]

/-- No number but zero begins with a zero. -/
theorem head_toDigits_ne_zero {n : Nat} : n ≠ 0 → (Nat.toDigits 10 n).head? ≠ some '0' := by
  induction n using Nat.strongRecOn with
  | ind n ih =>
      intro hn
      rw [Nat.toDigits_eq_if (by decide)]
      split
      · rename_i hsmall
        have hdigits : ∀ m < 10, m ≠ 0 → some m.digitChar ≠ some '0' := by decide
        exact hdigits n hsmall hn
      · -- The first digit is that of the number without its last digit.
        have hless : n / 10 < n := by omega
        have hnonzero : n / 10 ≠ 0 := by omega
        have hhead := ih (n / 10) hless hnonzero
        obtain ⟨c, more, hcons⟩ :=
          List.exists_cons_of_ne_nil (Nat.toDigits_ne_nil (b := 10) (n := n / 10))
        rw [hcons] at hhead ⊢
        exact hhead

/-- Digits are taken up to what ends the value. -/
theorem span_isDigit {digits rest : List Char} (hdigits : ∀ c ∈ digits, isDigit c = true)
    (hrest : EndsValue rest) : (digits ++ rest).span isDigit = (digits, rest) := by
  have hstop : rest.takeWhile isDigit = [] ∧ rest.dropWhile isDigit = rest := by
    cases rest with
    | nil =>
        exact ⟨rfl, rfl⟩
    | cons c rest =>
        have hc := (noPart_of_endsValue (hrest c rfl)).1
        rw [List.takeWhile_cons_of_neg (by simp [hc]), List.dropWhile_cons_of_neg (by simp [hc])]
        exact ⟨rfl, rfl⟩
  rw [List.span_eq_takeWhile_dropWhile, List.takeWhile_append_of_pos hdigits,
    List.dropWhile_append_of_pos hdigits, hstop.1, hstop.2, List.append_nil]

/-- The digits of a number are read as its whole part. -/
theorem readWhole_toDigits (n : Nat) {rest : List Char} (hrest : EndsValue rest) :
    readWhole (Nat.toDigits 10 n ++ rest) = some (Nat.toDigits 10 n, rest) := by
  by_cases hzero : n = 0
  · subst hzero
    rfl
  · have hdigits : ∀ c ∈ Nat.toDigits 10 n, isDigit c = true := fun c => isDigit_of_mem_toDigits
    have hspan := span_isDigit hdigits hrest
    have hhead := head_toDigits_ne_zero hzero
    obtain ⟨c, more, hcons⟩ := List.exists_cons_of_ne_nil (Nat.toDigits_ne_nil (b := 10) (n := n))
    rw [hcons] at hspan hdigits hhead ⊢
    have hc : isDigit c = true := hdigits c List.mem_cons_self
    have hne : c ≠ '0' := by
      rintro rfl
      exact hhead rfl
    rw [List.cons_append, readWhole.eq_2 c _ hne, if_pos hc, ← List.cons_append, hspan]

/-! ## Integers -/

theorem readFraction_of_ends {rest : List Char} (hrest : EndsValue rest) :
    readFraction rest = ([], rest) := by
  cases rest with
  | nil =>
      rfl
  | cons c rest =>
      have hpoint := (noPart_of_endsValue (hrest c rfl)).2.1
      exact readFraction.eq_2 (c :: rest) fun left h => hpoint (List.cons.inj h).1

theorem readExponent_of_ends {rest : List Char} (hrest : EndsValue rest) :
    readExponent rest = (none, rest) := by
  cases rest with
  | nil =>
      rfl
  | cons c rest =>
      have hletter := (noPart_of_endsValue (hrest c rfl)).2.2
      simp [readExponent, hletter.1, hletter.2]

/-- A short integer has no more digits than the reader takes. -/
theorem length_toDigits_of_short {i : Int} :
    (Scalar.int i).isLong = false → (Nat.toDigits 10 i.natAbs).length ≤ maxDigits := by
  intro h
  rw [Scalar.isLong, decide_eq_false_iff_not] at h
  -- The exponent gets a name, so that the power is not evaluated.
  unfold longBound at h
  rw [maxDigits]
  generalize hk : 4300 = k at h ⊢
  exact (Nat.length_toDigits_le_iff (by decide) (by omega)).2 (Nat.lt_of_not_le h)

/-- The sign and the digits of an integer. -/
theorem intText_cases (i : Int) :
    (0 ≤ i ∧ intText i = Nat.toDigits 10 i.natAbs) ∨
      (i < 0 ∧ intText i = '-' :: Nat.toDigits 10 i.natAbs) := by
  by_cases h : i < 0
  · exact .inr ⟨h, if_pos h⟩
  · exact .inl ⟨Int.not_lt.1 h, if_neg h⟩

/-- An integer that is not too long is read back. -/
theorem readNumber_intText {i : Int} {rest : List Char} (hshort : (Scalar.int i).isLong = false)
    (hrest : EndsValue rest) :
    readNumber (intText i ++ rest) = some (.ok (.int i, rest)) := by
  have hwhole := readWhole_toDigits i.natAbs hrest
  have hlength := length_toDigits_of_short hshort
  have hfraction := readFraction_of_ends hrest
  have hexponent := readExponent_of_ends hrest
  have hdigits := digitsValue_toDigits i.natAbs
  rcases intText_cases i with ⟨hpositive, htext⟩ | ⟨hnegative, htext⟩
  · have hvalue : ((i.natAbs : Nat) : Int) = i := Int.natAbs_of_nonneg hpositive
    -- The first character of the digits is no sign.
    obtain ⟨c, more, hcons⟩ :=
      List.exists_cons_of_ne_nil (Nat.toDigits_ne_nil (b := 10) (n := i.natAbs))
    have hc : c ≠ '-' := by
      rintro rfl
      have hdigit : isDigit '-' = true :=
        isDigit_of_mem_toDigits (n := i.natAbs) (by rw [hcons]; exact List.mem_cons_self)
      cases hdigit
    rw [htext]
    rw [hcons] at hwhole hlength hdigits ⊢
    rw [List.cons_append] at hwhole ⊢
    unfold readNumber
    split
    rename_i negative body hsign
    split at hsign
    · rename_i hminus
      exact absurd (List.cons.inj hminus).1 hc
    · cases hsign
      simp only [hwhole, hfraction, hexponent, List.isEmpty_nil, Option.isNone_none, Bool.and_self,
        if_true, if_neg (Nat.not_lt.2 hlength), Bool.false_eq_true, if_false, hdigits, hvalue]
  · have hvalue : -((i.natAbs : Nat) : Int) = i := by omega
    rw [htext, List.cons_append]
    simp only [readNumber, hwhole, hfraction, hexponent, List.isEmpty_nil, Option.isNone_none,
      Bool.and_self, if_true, if_neg (Nat.not_lt.2 hlength), hdigits, hvalue]

end Json
end ApiView
