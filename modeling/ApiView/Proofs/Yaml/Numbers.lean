import ApiView.Proofs.Json.Numerals
import ApiView.Proofs.Reference.Tables
import ApiView.Yaml.Scalar

/-!
# Numbers — the plain scalars that both formats know

A plain scalar of YAML has the type that its form names, and its value is read from the text again.  For
the words and numbers of JSON that are portable this comes to the same value:

* `isInt_integer`, `isFloat_decimal`: the types of numbers;
* `readInt_integer`, `readFloat_decimal`: their values;
* `construct_of_numeral`: every portable word or number.
-/

namespace ApiView

/-! ## Doubles -/

namespace Binary64

/-- No magnitude is beyond infinity. -/
theorem magnitudeBits_le (num den : Nat) : magnitudeBits num den ≤ infinityBits := by
  unfold magnitudeBits
  split
  · exact Nat.zero_le _
  · exact Nat.min_le_right _ _

/-- Below the sign a decimal has the same bits as its opposite, and they are no more than those of
infinity. -/
theorem exists_ofDecimal_eq (digits : Nat) (e : Int) :
    ∃ m ≤ infinityBits, ∀ negative, ofDecimal negative digits e = ofFields negative m := by
  unfold ofDecimal
  split_ifs
  · exact ⟨0, Nat.zero_le _, fun _ => rfl⟩
  · exact ⟨infinityBits, Nat.le_refl _, fun _ => rfl⟩
  · exact ⟨_, magnitudeBits_le _ _, fun _ => rfl⟩
  · exact ⟨0, Nat.zero_le _, fun _ => rfl⟩
  · exact ⟨_, magnitudeBits_le _ _, fun _ => rfl⟩

theorem toNat_ofFields {m : Nat} (h : m ≤ infinityBits) : (ofFields false m).bits.toNat = m := by
  have hbound : m < 2 ^ 64 := Nat.lt_of_le_of_lt h (by decide)
  simp only [ofFields, Bool.false_eq_true, if_false, UInt64.toNat_ofNat']
  exact Nat.mod_eq_of_lt hbound

/-- A decimal is a number. -/
theorem isNaN_ofDecimal (digits : Nat) (e : Int) : (ofDecimal false digits e).isNaN = false := by
  obtain ⟨m, hm, hfields⟩ := exists_ofDecimal_eq digits e
  rw [hfields, isNaN, exponentBits, fractionBits, toNat_ofFields hm]
  unfold infinityBits at hm
  simp only [Nat.pow_eq, Nat.reducePow, Nat.reduceMul, Bool.and_eq_false_iff, beq_eq_false_iff_ne,
    bne_eq_false_iff_eq] at hm ⊢
  omega

/-- The opposite of a decimal. -/
theorem neg_ofDecimal (digits : Nat) (e : Int) :
    (ofDecimal false digits e).neg = ofDecimal true digits e := by
  obtain ⟨m, hm, hfields⟩ := exists_ofDecimal_eq digits e
  have hsmall : m < Nat.pow 2 63 := Nat.lt_of_le_of_lt hm (by decide)
  rw [hfields, hfields, neg, negative, toNat_ofFields hm, decide_eq_false (Nat.not_le.2 hsmall),
    Nat.mod_eq_of_lt hsmall]
  rfl

end Binary64

namespace Yaml

open Json (IsWhole Exponent Numeral minus pointed of_isDigit)

/-! ## Characters -/

/-- A character of a number that no reader of numbers changes. -/
def isStable (c : Char) : Bool :=
  c != '_' && c != ':' && c != '\n' && Text.asciiDigit c == c && !Text.isNumeralBlank c

theorem isStable_of_isNumberChar {c : Char} (h : Json.isNumberChar c = true) : isStable c = true := by
  simp only [Json.isNumberChar, Bool.or_eq_true, beq_iff_eq] at h
  rcases h with ((((hc | rfl) | rfl) | rfl) | rfl) | rfl
  · exact of_isDigit (by decide) hc
  all_goals decide

/-- A row of stable characters is a number as it stands. -/
theorem numeral_of_stable {cs : List Char} (h : ∀ c ∈ cs, isStable c = true) : Text.numeral cs = cs := by
  have hblank : ∀ c ∈ cs, ¬ Text.isNumeralBlank c = true := by
    intro c hc
    have hstable := h c hc
    simp only [isStable, Bool.and_eq_true, Bool.not_eq_true'] at hstable
    simp [hstable.2]
  have hdrop : ∀ xs : List Char, (∀ c ∈ xs, ¬ Text.isNumeralBlank c = true) →
      xs.dropWhile Text.isNumeralBlank = xs := by
    intro xs hxs
    cases xs with
    | nil =>
        rfl
    | cons c rest =>
        exact List.dropWhile_cons_of_neg (hxs c List.mem_cons_self)
  have hdigit : cs.map Text.asciiDigit = cs := by
    refine (List.map_congr_left fun c hc => ?_).trans (List.map_id' cs)
    have hstable := h c hc
    simp only [isStable, Bool.and_eq_true, beq_iff_eq] at hstable
    exact hstable.1.2
  unfold Text.numeral
  dsimp only
  rw [hdrop cs hblank, hdrop cs.reverse (fun c hc => hblank c (List.mem_reverse.1 hc)),
    List.reverse_reverse, hdigit]

/-- A text that begins with a digit or a minus. -/
def startsNumber (cs : List Char) : Bool :=
  cs.head?.any fun c => Json.isDigit c || c == '-'

theorem notMem_of_startsNumber {texts : List String} (htexts : (texts.all (!startsNumber ·.toList)) = true)
    {cs : List Char} (h : startsNumber cs = true) : texts.contains (String.ofList cs) = false := by
  rw [Bool.eq_false_iff]
  intro hcontains
  have hno := List.all_eq_true.1 htexts _ (List.contains_iff_mem.1 hcontains)
  rw [String.toList_ofList, h] at hno
  cases hno

theorem beq_of_startsNumber {cs : List Char} (h : startsNumber cs = true) (word : String)
    (hword : startsNumber word.toList = false) : (String.ofList cs == word) = false := by
  rw [beq_eq_false_iff_ne]
  rintro rfl
  rw [String.toList_ofList, h] at hword
  cases hword

theorem dropFinalBreak_of_notMem {cs : List Char} (h : '\n' ∉ cs) : dropFinalBreak cs = cs := by
  induction cs using dropFinalBreak.induct with
  | case1 =>
      rfl
  | case2 c =>
      rfl
  | case3 c =>
      exact absurd (by simp) h
  | case4 c rest hone htwo ih =>
      rw [dropFinalBreak.eq_4 c rest hone htwo, ih fun hmem => h (List.mem_cons_of_mem c hmem)]

section Number

variable {whole fraction exponent : List Char} {e? : Option Int}

/-! ## The types of numbers -/

theorem head_of_isWhole (hwhole : IsWhole whole) :
    ∃ d more, whole = d :: more ∧ Json.isDigit d = true := by
  obtain ⟨d, more, rfl⟩ := List.exists_cons_of_ne_nil hwhole.nonempty
  exact ⟨d, more, rfl, hwhole.digits d List.mem_cons_self⟩

/-- A numeral starts like a number, with or without its sign. -/
theorem startsNumber_minus (negative : Bool) (hwhole : IsWhole whole) (rest : List Char) :
    startsNumber (whole ++ rest) = true ∧ startsNumber (minus negative ++ (whole ++ rest)) = true := by
  obtain ⟨d, more, rfl, hd⟩ := head_of_isWhole hwhole
  have hwhole : startsNumber (d :: more ++ rest) = true := by simp [startsNumber, hd]
  refine ⟨hwhole, ?_⟩
  cases negative with
  | true =>
      rfl
  | false =>
      exact hwhole

theorem dropSign_minus (negative : Bool) (hwhole : IsWhole whole) (rest : List Char) :
    dropSign (minus negative ++ (whole ++ rest)) = whole ++ rest := by
  obtain ⟨d, more, rfl, hd⟩ := head_of_isWhole hwhole
  cases negative with
  | true =>
      rfl
  | false =>
      have hplus := Json.ne_of_isDigit hd (d := '+') rfl
      have hminus := Json.ne_of_isDigit hd (d := '-') rfl
      exact dropSign.eq_3 _ (fun _ h => hplus (List.cons.inj h).1) fun _ h => hminus (List.cons.inj h).1

/-- A number that has the form of one is no word of another type. -/
theorem resolve_of_startsNumber {text : List Char} (hstable : ∀ c ∈ text, isStable c = true)
    (hstarts : startsNumber text = true) :
    (isFloat text = true → resolve text = .float) ∧
      (isFloat text = false → isInt text = true → resolve text = .int) := by
  have hbreak : '\n' ∉ text := fun hmem => absurd (hstable _ hmem) (by decide)
  have hnull := notMem_of_startsNumber (show nullWords.all _ = true by decide) hstarts
  have htrue := notMem_of_startsNumber (show trueWords.all _ = true by decide) hstarts
  have hfalse := notMem_of_startsNumber (show falseWords.all _ = true by decide) hstarts
  rw [resolve, dropFinalBreak_of_notMem hbreak]
  unfold typeOfForm
  simp only [hnull, htrue, hfalse, Bool.or_self, Bool.false_eq_true, if_false]
  constructor
  · intro hfloat
    rw [if_pos hfloat]
  · intro hfloat hint
    rw [if_neg (by simp [hfloat]), if_pos hint]

theorem all_isDigitOrLine {digits : List Char} (h : ∀ c ∈ digits, Json.isDigit c = true) :
    ∀ c ∈ digits, isDigitOrLine c = true := by
  intro c hc
  have hdigit : isDigit c = true := h c hc
  simp [isDigitOrLine, hdigit]

theorem isFloat_integer (negative : Bool) (hwhole : IsWhole whole) :
    isFloat (minus negative ++ whole) = false := by
  have hdrop := dropSign_minus negative hwhole []
  have hstarts := startsNumber_minus negative hwhole []
  rw [List.append_nil] at hdrop hstarts
  -- Each form of a number with a point needs the point or the mark of base 60.
  have hdecimal : isDecimal whole = false := by
    have hall : whole.dropWhile isDigitOrLine = [] :=
      List.dropWhile_eq_nil_iff.2 (all_isDigitOrLine hwhole.digits)
    unfold isDecimal
    split
    · rw [hall]
    · rfl
  have hfraction : isFraction (minus negative ++ whole) = false := by
    unfold isFraction
    split
    · rename_i hpoint
      rw [hpoint] at hstarts
      cases hstarts.2
    · rfl
  have hpoint : '.' ∉ whole := fun hmem => absurd (hwhole.digits _ hmem) (by decide)
  have hbase : isSexagesimalDecimal whole = false := by
    rw [isSexagesimalDecimal, Text.fieldsAt_eq_splitOn, List.splitOn_eq_singleton hpoint]
  unfold isFloat isFloatWord
  rw [hdrop, hdecimal, hfraction, hbase, notMem_of_startsNumber (by decide) hstarts.1,
    notMem_of_startsNumber (by decide) hstarts.2]
  rfl

theorem isInt_integer (negative : Bool) (hwhole : IsWhole whole) :
    isInt (minus negative ++ whole) = true := by
  have hdrop := dropSign_minus negative hwhole []
  rw [List.append_nil] at hdrop
  unfold isInt
  rw [hdrop]
  -- A whole part that begins with a zero is a zero, so the forms in other bases are out.
  by_cases hzero : whole.head? = some '0'
  · rw [hwhole.zero hzero]
    rfl
  · obtain ⟨d, more, rfl, hd⟩ := head_of_isWhole hwhole
    have hd0 : d ≠ '0' := fun h => hzero (by rw [h]; rfl)
    have hcolon : ':' ∉ d :: more := fun hmem => absurd (hwhole.digits _ hmem) (by decide)
    have hdigit : isDigit d = true := hd
    have hall : (d :: more).all isDigitOrLine = true :=
      List.all_eq_true.2 (all_isDigitOrLine hwhole.digits)
    split
    · rename_i heq
      exact absurd (List.cons.inj heq).1 hd0
    · rename_i heq
      exact absurd (List.cons.inj heq).1 hd0
    · rename_i heq
      exact absurd (List.cons.inj heq).1 hd0
    · rename_i c rest _ _ _ heq
      cases heq
      rw [Text.fieldsAt_eq_splitOn, List.splitOn_eq_singleton hcolon]
      simp only [hdigit, hall, List.all_nil, Bool.and_self]
    · rename_i heq
      cases heq

/-- An exponent begins with its letter. -/
theorem dropWhile_exponent {p : Char → Bool} (hsmall : p 'e' = false) (hlarge : p 'E' = false)
    (hexponent : isExponent exponent = true) : exponent.dropWhile p = exponent := by
  unfold isExponent at hexponent
  split at hexponent
  · rfl
  · rename_i mark sign digits
    simp only [Bool.and_eq_true, Bool.or_eq_true, beq_iff_eq] at hexponent
    obtain ⟨⟨⟨rfl | rfl, _⟩, _⟩, _⟩ := hexponent
    · exact List.dropWhile_cons_of_neg (by simp [hsmall])
    · exact List.dropWhile_cons_of_neg (by simp [hlarge])
  · cases hexponent

/-- A decimal with a point has the form of one. -/
theorem isFloat_decimal (negative : Bool) (hwhole : IsWhole whole)
    (hfraction : ∀ c ∈ fraction, Json.isDigit c = true) (hexponent : isExponent exponent = true) :
    isFloat (minus negative ++ (whole ++ '.' :: (fraction ++ exponent))) = true := by
  have hdrop := dropSign_minus negative hwhole ('.' :: (fraction ++ exponent))
  have hwholeDigits := all_isDigitOrLine hwhole.digits
  obtain ⟨d, more, rfl, hd⟩ := head_of_isWhole hwhole
  have hdigit : isDigit d = true := hd
  have hrest : (d :: more ++ '.' :: (fraction ++ exponent)).dropWhile isDigitOrLine =
      '.' :: (fraction ++ exponent) := by
    rw [List.dropWhile_append_of_pos hwholeDigits]
    exact List.dropWhile_cons_of_neg (by decide)
  have hexp : (fraction ++ exponent).dropWhile isDigitOrLine = exponent := by
    rw [List.dropWhile_append_of_pos (all_isDigitOrLine hfraction)]
    exact dropWhile_exponent (by decide) (by decide) hexponent
  have hdecimal : isDecimal (d :: more ++ '.' :: (fraction ++ exponent)) = true := by
    unfold isDecimal
    simp only [List.cons_append] at hrest ⊢
    simp only [hrest, hexp, hdigit, hexponent, Bool.and_self]
  unfold isFloat
  rw [hdrop, hdecimal]
  simp

/-! ## Integers -/

/-- The digits of a numeral are read as JSON reads them. -/
theorem digitsIn_digits (hwhole : IsWhole whole) :
    digitsIn 10 whole = some (Json.digitsValue whole) := by
  -- No digit is lost on the way, whatever number has been read so far.
  have hfold : ∀ (digits : List Char) (n : Nat), (∀ c ∈ digits, Json.isDigit c = true) →
      digits.foldl (fun acc c => do
        let n ← acc
        let d ← Text.hexValue? c
        if d < 10 then some (n * 10 + d) else none) (some n) =
        some (digits.foldl (fun n c => n * 10 + (c.toNat - 48)) n) := by
    intro digits
    induction digits with
    | nil =>
        exact fun _ _ => rfl
    | cons c rest ih =>
        intro n hdigits
        obtain ⟨hc, hrest⟩ := List.forall_mem_cons.1 hdigits
        have hvalue : Text.hexValue? c = some (c.toNat - 48) ∧ c.toNat - 48 < 10 := by
          have hall := of_isDigit
            (p := fun c => Text.hexValue? c == some (c.toNat - 48) && decide (c.toNat - 48 < 10))
            (by decide) hc
          simpa using hall
        rw [List.foldl_cons, List.foldl_cons, ← ih _ hrest]
        simp only [hvalue.1, Option.bind_eq_bind, Option.bind_some, if_pos hvalue.2]
  rw [digitsIn, if_neg (by simpa using hwhole.nonempty), hfold whole 0 hwhole.digits]
  rfl

/-- A whole part is read as its number. -/
theorem readMagnitude_whole (hwhole : IsWhole whole) (hlength : whole.length ≤ Json.maxDigits) :
    readMagnitude whole = .ok (Json.digitsValue whole : Int) := by
  by_cases hzero : whole.head? = some '0'
  · rw [hwhole.zero hzero]
    rfl
  · have hstable : ∀ c ∈ whole, isStable c = true :=
      fun c hc => of_isDigit (by decide) (hwhole.digits c hc)
    -- Neither a colon nor the mark of a base is among digits that do not begin with a zero.
    have hcolon : whole.contains ':' = false := by
      rw [Bool.eq_false_iff]
      exact fun h => absurd (hwhole.digits _ (List.contains_iff_mem.1 h)) (by decide)
    have hsign : dropSign whole = whole := by
      simpa [minus] using dropSign_minus false hwhole []
    have hvalue := digitsIn_digits hwhole
    obtain ⟨d, more, rfl, hd⟩ := head_of_isWhole hwhole
    have hd0 : d ≠ '0' := fun h => hzero (by rw [h]; rfl)
    have hminus : ((d :: more).head? == some '-') = false := by
      simpa using Json.ne_of_isDigit hd (d := '-') rfl
    have hmark : dropMark 10 (d :: more) = d :: more :=
      dropMark.eq_2 10 _ fun _ _ h => hd0 (List.cons.inj h).1
    have hten : integerIn 10 (d :: more) = .ok (Json.digitsValue (d :: more) : Int) := by
      unfold integerIn
      simp only [numeral_of_stable hstable, hsign, hmark, hvalue, hminus, Nat.not_lt.2 hlength,
        beq_self_eq_true, decide_false, Bool.and_false, Bool.false_eq_true, if_false]
    rw [readMagnitude.eq_5 _ (by simp) (fun _ h => hd0 (List.cons.inj h).1)
      (fun _ h => hd0 (List.cons.inj h).1) (fun _ h => hd0 (List.cons.inj h).1), hcolon]
    exact hten

theorem filter_of_stable {cs : List Char} (h : ∀ c ∈ cs, isStable c = true) :
    cs.filter (· != '_') = cs := by
  refine List.filter_eq_self.2 fun c hc => ?_
  have hstable := h c hc
  simp only [isStable, Bool.and_eq_true] at hstable
  exact hstable.1.1.1.1

theorem isStable_integer (negative : Bool) (hwhole : IsWhole whole) :
    ∀ c ∈ minus negative ++ whole, isStable c = true := by
  exact fun c hc => isStable_of_isNumberChar (Json.integer_isNumberChar negative hwhole c hc)

/-- An integer is read as JSON reads it. -/
theorem readInt_integer (negative : Bool) (hwhole : IsWhole whole)
    (hlength : whole.length ≤ Json.maxDigits) :
    readInt (minus negative ++ whole) =
      .ok (if negative then -(Json.digitsValue whole : Int) else Json.digitsValue whole) := by
  have hstable := isStable_integer negative hwhole
  have hmagnitude := readMagnitude_whole hwhole hlength
  rw [readInt, filter_of_stable hstable]
  cases negative with
  | true =>
      simp only [minus, if_true, List.cons_append, List.nil_append, hmagnitude]
      rfl
  | false =>
      obtain ⟨d, more, rfl, hd⟩ := head_of_isWhole hwhole
      have hplus := Json.ne_of_isDigit hd (d := '+') rfl
      have hminus := Json.ne_of_isDigit hd (d := '-') rfl
      simp only [minus, Bool.false_eq_true, if_false, List.nil_append]
      split
      · rename_i heq
        exact absurd (List.cons.inj heq).1 hminus
      · rename_i heq
        exact absurd (List.cons.inj heq).1 hplus
      · exact hmagnitude

/-! ## Numbers with a point -/

theorem map_toLower_digits {digits : List Char} (h : ∀ c ∈ digits, Json.isDigit c = true) :
    digits.map Char.toLower = digits := by
  refine (List.map_congr_left fun c hc => ?_).trans (List.map_id' digits)
  simpa using of_isDigit (p := fun c => c.toLower == c) (by decide) (h c hc)

/-- The exponent of a portable number is read in small letters. -/
theorem exponentOf_toLower (h : Exponent exponent e?) (hexponent : isExponent exponent = true) :
    exponentOf (exponent.map Char.toLower) = some (e?.getD 0) := by
  have hletter : ∀ mark : Char, mark = 'e' ∨ mark = 'E' → mark.toLower = 'e' := by
    rintro mark (rfl | rfl) <;> rfl
  cases h with
  | none =>
      rfl
  | @bare mark digits hmark hne hdigits =>
      -- An exponent without a sign is none in YAML.
      obtain ⟨d, more, rfl⟩ := List.exists_cons_of_ne_nil hne
      have hd := hdigits d List.mem_cons_self
      have hplus : (d == '+') = false := by simpa using Json.ne_of_isDigit hd (d := '+') rfl
      have hminus : (d == '-') = false := by simpa using Json.ne_of_isDigit hd (d := '-') rfl
      simp [isExponent, hplus, hminus] at hexponent
  | @signed mark digits negative hmark hne hdigits =>
      have hall : digits.all isDigit = true := List.all_eq_true.2 hdigits
      have hsign : (if negative then '-' else '+').toLower = if negative then '-' else '+' := by
        cases negative <;> rfl
      rw [List.map_cons, List.map_cons, map_toLower_digits hdigits, hletter mark hmark, hsign]
      cases negative with
      | true =>
          simp [exponentOf, dropSign, hne, hall]
          rfl
      | false =>
          simp [exponentOf, dropSign, hne, hall]
          rfl

theorem isStable_decimal (hwhole : IsWhole whole) (hfraction : ∀ c ∈ fraction, Json.isDigit c = true)
    (hstable : ∀ c ∈ exponent, isStable c = true) :
    ∀ c ∈ whole ++ '.' :: (fraction ++ exponent), isStable c = true := by
  have hdigit : ∀ c, Json.isDigit c = true → isStable c = true := fun c => of_isDigit (by decide)
  intro c hc
  rcases List.mem_append.1 hc with hc | hc
  · exact hdigit c (hwhole.digits c hc)
  · rcases List.mem_cons.1 hc with rfl | hc
    · decide
    · rcases List.mem_append.1 hc with hc | hc
      · exact hdigit c (hfraction c hc)
      · exact hstable c hc

/-- A decimal is read off its parts. -/
theorem decimal_of_parts {e : Int} (hwhole : IsWhole whole)
    (hfraction : ∀ c ∈ fraction, Json.isDigit c = true) (hstable : ∀ c ∈ exponent, isStable c = true)
    (hexponent : exponentOf exponent = some e) :
    decimal (whole ++ '.' :: (fraction ++ exponent)) =
      .ok (Binary64.ofDecimal false (Json.digitsValue (whole ++ fraction)) (e - fraction.length)) := by
  have hall := isStable_decimal hwhole hfraction hstable
  -- An exponent begins with its letter, so the digits of the fraction end in front of it.
  have hletter : ∀ c ∈ exponent.head?, isDigit c = false := by
    intro c hc
    cases exponent with
    | nil =>
        cases hc
    | cons mark rest =>
        cases hc
        rw [exponentOf] at hexponent
        by_cases hmark : (c == 'e') = true
        · rw [beq_iff_eq.1 hmark]
          rfl
        · rw [if_neg hmark] at hexponent
          cases hexponent
  have hpoint : ∀ c ∈ ('.' :: (fraction ++ exponent)).head?, isDigit c = false := by
    intro c hc
    cases hc
    rfl
  have hspan := Json.span_append (p := isDigit) hwhole.digits hpoint
  have hspan' := Json.span_append (p := isDigit) hfraction hletter
  have hdrop : dropSign (whole ++ '.' :: (fraction ++ exponent)) = whole ++ '.' :: (fraction ++ exponent) :=
    dropSign_minus false hwhole ('.' :: (fraction ++ exponent))
  have hstarts := (startsNumber_minus false hwhole ('.' :: (fraction ++ exponent))).1
  have hword := beq_of_startsNumber hstarts
  have hminus : ((whole ++ '.' :: (fraction ++ exponent)).head? == some '-') = false := by
    obtain ⟨d, more, rfl, hd⟩ := head_of_isWhole hwhole
    simpa using Json.ne_of_isDigit hd (d := '-') rfl
  -- None of the words for infinity and for what is no number begins with a digit.
  unfold decimal
  simp only [numeral_of_stable hall, hdrop, hminus, hword "inf" rfl, hword "infinity" rfl,
    hword "nan" rfl, hspan, hspan', hexponent, Bool.or_self, Bool.false_eq_true, if_false,
    List.isEmpty_eq_false_iff.2 hwhole.nonempty, Bool.false_and]
  rfl

/-- Behind the sign, what is a decimal has its value. -/
theorem readFloatAfter_of_decimal {cs : List Char} {m : Nat} {e : Int} (negative : Bool) (place : Nat)
    (hstable : ∀ c ∈ cs, isStable c = true) (hstarts : startsNumber cs = true)
    (hdecimal : decimal cs = .ok (Binary64.ofDecimal false m e)) :
    readFloatAfter negative place cs = .ok (Binary64.ofDecimal negative m e) := by
  have hcolon : cs.contains ':' = false := by
    rw [Bool.eq_false_iff]
    intro hcontains
    exact absurd (hstable _ (List.contains_iff_mem.1 hcontains)) (by decide)
  have hword := beq_of_startsNumber hstarts
  unfold readFloatAfter readFloatMagnitude
  simp only [hword ".inf" rfl, hword ".nan" rfl, hcolon, hdecimal, Bool.false_eq_true, if_false,
    ok_bind, Binary64.isNaN_ofDecimal, Binary64.neg_ofDecimal]
  cases negative with
  | true =>
      rw [if_pos rfl]
      rfl
  | false =>
      rw [if_neg Bool.false_ne_true]
      rfl

/-- A sign in front of digits is taken off. -/
theorem readFloat_signed {text rest : List Char} (negative : Bool) (place : Nat) (hwhole : IsWhole whole)
    (htext : (text.filter (· != '_')).map Char.toLower = minus negative ++ (whole ++ rest)) :
    readFloat place text = readFloatAfter negative place (whole ++ rest) := by
  rw [readFloat, htext]
  cases negative with
  | true =>
      simp only [minus, if_true, List.cons_append, List.nil_append]
  | false =>
      obtain ⟨d, more, rfl, hd⟩ := head_of_isWhole hwhole
      have hplus := Json.ne_of_isDigit hd (d := '+') rfl
      have hminus := Json.ne_of_isDigit hd (d := '-') rfl
      simp only [minus, Bool.false_eq_true, if_false, List.nil_append, List.cons_append]
      split
      · rename_i heq
        cases heq
      · rename_i heq
        exact absurd (List.cons.inj heq).1 hminus
      · rename_i heq
        exact absurd (List.cons.inj heq).1 hplus
      · rfl

/-- A decimal is read as JSON reads it. -/
theorem readFloat_decimal (negative : Bool) (place : Nat) (hwhole : IsWhole whole)
    (hfraction : ∀ c ∈ fraction, Json.isDigit c = true) (h : Exponent exponent e?)
    (hexponent : isExponent exponent = true)
    (hstable : ∀ c ∈ minus negative ++ (whole ++ '.' :: (fraction ++ exponent)), isStable c = true) :
    readFloat place (minus negative ++ (whole ++ '.' :: (fraction ++ exponent))) =
      .ok (Binary64.ofDecimal negative (Json.digitsValue (whole ++ fraction))
        (e?.getD 0 - fraction.length)) := by
  -- Only the letter of the exponent changes when the letters are made small.
  have hlower : (minus negative ++ (whole ++ '.' :: (fraction ++ exponent))).map Char.toLower =
      minus negative ++ (whole ++ '.' :: (fraction ++ exponent.map Char.toLower)) := by
    have hsign : (minus negative).map Char.toLower = minus negative := by cases negative <;> rfl
    simp only [List.map_append, List.map_cons, map_toLower_digits hwhole.digits,
      map_toLower_digits hfraction, hsign]
    rfl
  have hsmall : ∀ c ∈ exponent.map Char.toLower, isStable c = true := by
    intro c hc
    obtain ⟨d, hd, rfl⟩ := List.mem_map.1 hc
    have hnumber := h.isNumberChar d hd
    simp only [Json.isNumberChar, Bool.or_eq_true, beq_iff_eq] at hnumber
    rcases hnumber with ((((hd | rfl) | rfl) | rfl) | rfl) | rfl
    · exact of_isDigit (p := fun c => isStable c.toLower) (by decide) hd
    all_goals decide
  rw [readFloat_signed negative place hwhole ((congrArg _ (filter_of_stable hstable)).trans hlower)]
  exact readFloatAfter_of_decimal negative place (isStable_decimal hwhole hfraction hsmall)
    (startsNumber_minus false hwhole _).1
    (decimal_of_parts hwhole hfraction hsmall (exponentOf_toLower h hexponent))

end Number

/-! ## Words and numbers -/

/-- An integer is constructed as the number that JSON reads. -/
theorem construct_integer {whole : List Char} (negative : Bool) (hwhole : IsWhole whole)
    (hlength : whole.length ≤ Json.maxDigits) (place : Nat) :
    construct (resolve (minus negative ++ whole)) place (minus negative ++ whole) =
      .ok (.int (if negative then -(Json.digitsValue whole : Int) else Json.digitsValue whole)) := by
  have hstarts := (startsNumber_minus negative hwhole []).2
  rw [List.append_nil] at hstarts
  rw [(resolve_of_startsNumber (isStable_integer negative hwhole) hstarts).2
    (isFloat_integer negative hwhole) (isInt_integer negative hwhole), construct,
    readInt_integer negative hwhole hlength]
  rfl

/-- A portable number with an exponent has a point, and so a fraction. -/
theorem fraction_of_portable {whole fraction exponent : List Char} {e? : Option Int} (negative : Bool)
    (hwhole : IsWhole whole) (hfraction : ∀ c ∈ fraction, Json.isDigit c = true)
    (hexponent : Exponent exponent e?) (hsome : ¬ (fraction = [] ∧ e? = none))
    (hportable : Json.isPortablePlain (minus negative ++ (whole ++ (pointed fraction ++ exponent))) = true) :
    fraction ≠ [] ∧ isExponent exponent = true := by
  have hfront := Json.front_isNumberChar negative hwhole hfraction
  have hstarts := (startsNumber_minus negative hwhole (pointed fraction ++ exponent)).2
  have hsplit : minus negative ++ (whole ++ (pointed fraction ++ exponent)) =
      minus negative ++ (whole ++ pointed fraction) ++ exponent := by
    simp only [List.append_assoc]
  have hnumber : Json.hasPortableExponent
      (minus negative ++ (whole ++ pointed fraction) ++ exponent) = true := by
    rw [Json.isPortablePlain, notMem_of_startsNumber (by decide) hstarts, Bool.false_or,
      Bool.and_eq_true, hsplit] at hportable
    exact hportable.2
  obtain ⟨hform, hpoint⟩ :=
    Json.exponent_of_portable (fun c hc => (hfront c hc).2) hexponent hnumber
  refine ⟨?_, hform⟩
  -- A portable exponent stands behind a point.  Without a fraction there would be none.
  rintro rfl
  have hin := hpoint.resolve_left fun hnone => hsome ⟨rfl, hnone⟩
  rw [show pointed [] = [] from rfl, List.append_nil] at hin
  rcases List.mem_append.1 hin with hin | hin
  · cases negative <;> simp [minus] at hin
  · exact absurd (hwhole.digits _ hin) (by decide)

/-- A decimal is constructed as the number that JSON reads. -/
theorem construct_decimal {whole fraction exponent : List Char} {e? : Option Int} (negative : Bool)
    (hwhole : IsWhole whole) (hfraction : ∀ c ∈ fraction, Json.isDigit c = true)
    (hexponent : Exponent exponent e?) (hne : fraction ≠ []) (hform : isExponent exponent = true)
    (place : Nat) :
    construct (resolve (minus negative ++ (whole ++ (pointed fraction ++ exponent)))) place
        (minus negative ++ (whole ++ (pointed fraction ++ exponent))) =
      .ok (.float (Binary64.ofDecimal negative (Json.digitsValue (whole ++ fraction))
        (e?.getD 0 - fraction.length))) := by
  -- With digits behind it the point is written.
  have hpointed : pointed fraction ++ exponent = '.' :: (fraction ++ exponent) := by
    rw [pointed, if_neg (by simpa using hne)]
    rfl
  have hstable : ∀ c ∈ minus negative ++ (whole ++ '.' :: (fraction ++ exponent)), isStable c = true := by
    intro c hc
    rcases List.mem_append.1 hc with hc | hc
    · cases negative with
      | true =>
          rw [List.mem_singleton.1 hc]
          rfl
      | false =>
          cases hc
    · exact isStable_decimal hwhole hfraction
        (fun c hc => isStable_of_isNumberChar (hexponent.isNumberChar c hc)) c hc
  have hstarts := (startsNumber_minus negative hwhole ('.' :: (fraction ++ exponent))).2
  rw [hpointed, (resolve_of_startsNumber hstable hstarts).1
    (isFloat_decimal negative hwhole hfraction hform), construct,
    readFloat_decimal negative place hwhole hfraction hexponent hform hstable]
  rfl

/-- A portable word or number has the same value in YAML. -/
theorem construct_of_numeral {text : List Char} {s : Scalar} (h : Numeral text s)
    (hportable : Json.isPortablePlain text = true) (place : Nat) :
    construct (resolve text) place text = .ok s := by
  cases h with
  | word hmem =>
      simp only [Json.words, List.mem_cons, List.not_mem_nil, or_false, Prod.mk.injEq] at hmem
      rcases hmem with ⟨rfl, rfl⟩ | ⟨rfl, rfl⟩ | ⟨rfl, rfl⟩ | ⟨rfl, rfl⟩ | ⟨rfl, rfl⟩ | ⟨rfl, rfl⟩
      · rfl
      · rfl
      · rfl
      all_goals exact absurd hportable (by decide)
  | integer negative hwhole hlength =>
      exact construct_integer negative hwhole hlength place
  | decimal negative hwhole hfraction hexponent hsome =>
      obtain ⟨hne, hform⟩ :=
        fraction_of_portable negative hwhole hfraction hexponent hsome hportable
      exact construct_decimal negative hwhole hfraction hexponent hne hform place

end Yaml
end ApiView
