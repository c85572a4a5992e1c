import ApiView.Proofs.Json.Reading
import ApiView.Yaml.Cursor

/-!
# Lexemes — what of JSON is YAML as well

Nearly every JSON text is a YAML text with the same value, but not every one: YAML takes no tabs between
its tokens, breaks lines inside quotes at three more characters, knows no pairs of halves, wants a point
and a sign where a number has an exponent, and finds a name only on the line of its colon.  All of that
can be seen on the pieces of a text:

* `Lexeme`, `lexemes`: the pieces of a text;
* `Lexeme.arePortable`, `isPortable`: pieces that both formats read alike, and a text of them;
* `Encodes`, `encodes_of_readUnits`: what stands between quotes, as the reader takes it;
* `lexemes_blanks`, `lexemes_string`, `lexemes_plain`: the pieces of what is read.
-/

namespace ApiView
namespace Json

/-! ## Pieces of a text -/

/-- A piece of a text: a blank, a mark, what stands between quotes, or a word or number. -/
inductive Lexeme
  | blank (c : Char)
  | mark (c : Char)
  | string (body : List Char)
  | plain (text : List Char)
deriving DecidableEq, Repr

/-- Where a text is cut: between pieces, inside quotes, or there behind a backslash. -/
inductive Place
  | between
  | quotes
  | escape

/-- Brackets, commas and colons. -/
def isMark (c : Char) : Bool :=
  c == '[' || c == ']' || c == '\x7b' || c == '\x7d' || c == ',' || c == ':'

namespace Lexeme

/-- One more character in front of pieces, as a part of a word or number. -/
def addPlain (c : Char) : List Lexeme → List Lexeme
  | .plain text :: rest => .plain (c :: text) :: rest
  | pieces => .plain [c] :: pieces

/-- One more character in front of pieces, inside the quotes that they begin with. -/
def addQuoted (c : Char) : List Lexeme → List Lexeme
  | .string body :: rest => .string (c :: body) :: rest
  | pieces => .string [c] :: pieces

end Lexeme

/-- The pieces of a text from a place on. -/
def lexemesFrom : Place → List Char → List Lexeme
  | .between, [] => []
  | .between, c :: rest =>
    if c == '"' then lexemesFrom .quotes rest
    else if isBlank c then .blank c :: lexemesFrom .between rest
    else if isMark c then .mark c :: lexemesFrom .between rest
    else Lexeme.addPlain c (lexemesFrom .between rest)
  | .quotes, [] => [.string []]
  | .quotes, c :: rest =>
    if c == '"' then .string [] :: lexemesFrom .between rest
    else if c == '\\' then Lexeme.addQuoted c (lexemesFrom .escape rest)
    else Lexeme.addQuoted c (lexemesFrom .quotes rest)
  | .escape, [] => [.string []]
  | .escape, c :: rest => Lexeme.addQuoted c (lexemesFrom .quotes rest)

/-- The pieces of a text. -/
def lexemes (text : List Char) : List Lexeme :=
  lexemesFrom .between text

/-! ## Pieces that both formats read alike -/

/-- Whether a number is the first half of a pair. -/
def isHighHalf (n : Nat) : Bool :=
  0xD800 ≤ n && n ≤ 0xDBFF

/-- Whether a number is the second half of a pair. -/
def isLowHalf (n : Nat) : Bool :=
  0xDC00 ≤ n && n ≤ 0xDFFF

/-- The unit that an escape at the start of a text names. -/
def escapedUnit? : List Char → Option Nat
  | '\\' :: 'u' :: a :: b :: c :: d :: _ => Text.hexNumber? [a, b, c, d]
  | _ => none

/-- Whether escapes for the two halves of a pair follow each other between quotes. -/
def hasPair : List Char → Bool
  | [] => false
  | '\\' :: 'u' :: a :: b :: c :: d :: rest =>
    ((Text.hexNumber? [a, b, c, d]).any isHighHalf && (escapedUnit? rest).any isLowHalf) ||
      hasPair rest
  | '\\' :: _ :: rest => hasPair rest
  | _ :: rest => hasPair rest

/-- Whether both formats read the same between quotes: there are no line breaks of YAML, and no pairs. -/
def isPortableBody (body : List Char) : Bool :=
  body.all (!Yaml.isBreak ·) && !hasPair body

/-- Characters of numbers. -/
def isNumberChar (c : Char) : Bool :=
  isDigit c || c == '+' || c == '-' || c == '.' || c == 'e' || c == 'E'

/-- Whether the exponent of a number, if there is one, comes with a point in front of it and a sign. -/
def hasPortableExponent (text : List Char) : Bool :=
  match text.dropWhile fun c => !(c == 'e' || c == 'E') with
  | [] => true
  | _ :: sign :: _ => text.contains '.' && (sign == '+' || sign == '-')
  | [_] => false

/-- Whether a word or number means the same in both formats. -/
def isPortablePlain (text : List Char) : Bool :=
  ["null", "true", "false"].contains (String.ofList text) ||
    (text.all isNumberChar && hasPortableExponent text)

namespace Lexeme

/-- The blanks in front of a colon, if there is one behind them. -/
def blanksToColon? : List Lexeme → Option (List Char)
  | .mark ':' :: _ => some []
  | .blank c :: rest => (blanksToColon? rest).map (c :: ·)
  | _ => none

/-- Whether what stands between quotes is found to be a name, if a colon makes it one: the colon is on the
same line and not too far away. -/
def nameFits (body : List Char) (rest : List Lexeme) : Bool :=
  match blanksToColon? rest with
  | some blanks => blanks.all (· == ' ') && body.length + blanks.length + 2 ≤ 1024
  | none => true

/-- Whether both formats read pieces alike. -/
def arePortable : List Lexeme → Bool
  | [] => true
  | .blank c :: rest => c != '\t' && arePortable rest
  | .mark _ :: rest => arePortable rest
  | .string body :: rest => isPortableBody body && nameFits body rest && arePortable rest
  | .plain text :: rest => isPortablePlain text && arePortable rest

end Lexeme

/-- Whether both formats read a text alike, if it is a JSON text.  There is no bound on how deep brackets are
nested: the readers go down as far as the text does, and what a machine has room for is said apart, in
`Room`. -/
def isPortable (text : List Char) : Bool :=
  (Text.codes text).all Yaml.isAllowed && Lexeme.arePortable (lexemes text)

/-! ## Between quotes -/

/-- What stands between quotes, and the units that the reader takes it for. -/
inductive Encodes : List Char → List Nat → Prop
  | nil : Encodes [] []
  | plain {c : Char} {body : List Char} {units : List Nat} :
      c ≠ '"' → c ≠ '\\' → ¬ c < ' ' → Encodes body units → Encodes (c :: body) (c.toNat :: units)
  | short {c x : Char} {body : List Char} {units : List Nat} :
      c ≠ 'u' → escaped? c = some x → Encodes body units →
        Encodes ('\\' :: c :: body) (x.toNat :: units)
  | unit {a b c d : Char} {n : Nat} {body : List Char} {units : List Nat} :
      Text.hexNumber? [a, b, c, d] = some n → Encodes body units →
        Encodes ('\\' :: 'u' :: a :: b :: c :: d :: body) (n :: units)

/-- The reader goes up to the first quote that is not escaped. -/
theorem encodes_of_readUnits {start cs left : List Char} {units : List Nat} :
    readUnits start cs = .ok (units, left) → ∃ body, cs = body ++ '"' :: left ∧ Encodes body units := by
  intro h
  induction cs using readUnits.induct generalizing units left with
  | case1 =>
      cases h
  | case2 rest =>
      cases h
      exact ⟨[], rfl, .nil⟩
  | case3 =>
      cases h
  | case4 a b c d e rest n hn ih =>
      rw [readUnits.eq_4, hn] at h
      obtain ⟨⟨more, left'⟩, hrest, hunits⟩ := bind_eq_ok_iff.1 h
      cases hunits
      obtain ⟨body, hcs, hbody⟩ := ih hrest
      exact ⟨'\\' :: 'u' :: a :: b :: c :: d :: body, by rw [hcs]; rfl, .unit hn hbody⟩
  | case5 a b c d e rest hn =>
      rw [readUnits.eq_4, hn] at h
      cases h
  | case6 tail hshort =>
      rw [readUnits.eq_5 start tail hshort] at h
      cases h
  | case7 c rest hunit hletter x hx ih =>
      rw [readUnits.eq_6 start c rest hunit hletter, hx] at h
      obtain ⟨⟨more, left'⟩, hrest, hunits⟩ := bind_eq_ok_iff.1 h
      cases hunits
      obtain ⟨body, hcs, hbody⟩ := ih hrest
      exact ⟨'\\' :: c :: body, by rw [hcs]; rfl, .short hletter hx hbody⟩
  | case8 c rest hunit hletter hx =>
      rw [readUnits.eq_6 start c rest hunit hletter, hx] at h
      cases h
  | case9 c rest hquote hbackslash hcontrol =>
      rw [readUnits.eq_7 start c rest hquote hbackslash, if_pos hcontrol] at h
      cases h
  | case10 c rest hquote hbackslash hcontrol ih =>
      rw [readUnits.eq_7 start c rest hquote hbackslash, if_neg hcontrol] at h
      obtain ⟨⟨more, left'⟩, hrest, hunits⟩ := bind_eq_ok_iff.1 h
      cases hunits
      obtain ⟨body, hcs, hbody⟩ := ih hrest
      exact ⟨c :: body, by rw [hcs]; rfl, .plain hquote hbackslash hcontrol hbody⟩

/-- Four hexadecimal digits name a 16-bit unit. -/
theorem digits_of_hexNumber? {a b c d : Char} {n : Nat} :
    Text.hexNumber? [a, b, c, d] = some n →
      n < 0x10000 ∧ ∀ x ∈ [a, b, c, d], (Text.hexValue? x).isSome = true := by
  have hvalue : ∀ x m, Text.hexValue? x = some m → m < 16 ∧ (Text.hexValue? x).isSome = true := by
    intro x m hx
    refine ⟨?_, by rw [hx]; rfl⟩
    unfold Text.hexValue? at hx
    simp only [Bool.and_eq_true, decide_eq_true_eq, Char.le_def, UInt32.le_iff_toNat_le] at hx
    split_ifs at hx with hdigit hsmall hlarge
    all_goals
      cases hx
      simp only [Char.toNat, UInt32.reduceToNat, Char.reduceVal] at *
      omega
  intro h
  simp only [Text.hexNumber?, List.foldl_cons, List.foldl_nil, Option.bind_eq_bind, Option.pure_def,
    Option.bind_eq_some_iff, Option.some.injEq] at h
  obtain ⟨_, ⟨_, ⟨_, ⟨_, rfl, va, ha, rfl⟩, vb, hb, rfl⟩, vc, hc, rfl⟩, vd, hd, rfl⟩ := h
  have ha' := hvalue a va ha
  have hb' := hvalue b vb hb
  have hc' := hvalue c vc hc
  have hd' := hvalue d vd hd
  refine ⟨by omega, ?_⟩
  simp only [List.forall_mem_cons, List.not_mem_nil, false_implies, implies_true, and_true]
  exact ⟨ha'.2, hb'.2, hc'.2, hd'.2⟩

theorem ne_of_hexValue? {x y : Char} (hx : (Text.hexValue? x).isSome = true)
    (hy : (Text.hexValue? y).isSome = false) : x ≠ y := by
  rintro rfl
  rw [hx] at hy
  cases hy

/-! ## The pieces of what is read -/

theorem lexemes_mark {c : Char} (hmark : isMark c = true) (rest : List Char) :
    lexemes (c :: rest) = .mark c :: lexemes rest := by
  have hkind : ∀ c, isMark c = true → c ≠ '"' ∧ isBlank c = false := by
    intro c hc
    simp only [isMark, Bool.or_eq_true, beq_iff_eq] at hc
    rcases hc with ((((rfl | rfl) | rfl) | rfl) | rfl) | rfl
    all_goals
      decide
  obtain ⟨hquote, hblank⟩ := hkind c hmark
  simp [lexemes, lexemesFrom, hquote, hblank, hmark]

theorem lexemes_blanks {blanks : List Char} (hblanks : Blanks blanks) (rest : List Char) :
    lexemes (blanks ++ rest) = blanks.map .blank ++ lexemes rest := by
  induction blanks with
  | nil =>
      rfl
  | cons c blanks ih =>
      obtain ⟨hc, hblanks⟩ := List.forall_mem_cons.1 hblanks
      have hquote : c ≠ '"' := by
        rintro rfl
        cases hc
      have hrest := ih hblanks
      unfold lexemes at hrest ⊢
      simp [lexemesFrom, hquote, hc, hrest]

/-- What stands between quotes is one piece. -/
theorem lexemes_string {body : List Char} {units : List Nat} (h : Encodes body units)
    (rest : List Char) : lexemes ('"' :: (body ++ '"' :: rest)) = .string body :: lexemes rest := by
  have hquotes : lexemesFrom .quotes (body ++ '"' :: rest) = .string body :: lexemes rest := by
    induction h with
    | nil =>
        rfl
    | plain hquote hbackslash _ _ ih =>
        simp [lexemesFrom, hquote, hbackslash, ih, Lexeme.addQuoted]
    | short _ _ _ ih =>
        simp [lexemesFrom, ih, Lexeme.addQuoted]
    | unit hn _ ih =>
        have hdigits : ∀ x ∈ [_, _, _, _], x ≠ '"' ∧ x ≠ '\\' := fun x hx =>
          have hvalue := (digits_of_hexNumber? hn).2 x hx
          ⟨ne_of_hexValue? hvalue rfl, ne_of_hexValue? hvalue rfl⟩
        simp only [List.forall_mem_cons, List.not_mem_nil, false_implies, implies_true, and_true] at hdigits
        obtain ⟨ha, hb, hc, hd⟩ := hdigits
        simp [lexemesFrom, ih, Lexeme.addQuoted, ha, hb, hc, hd]
  exact hquotes

/-- A character of a word or number. -/
def isPlainChar (c : Char) : Bool :=
  !(c == '"' || isBlank c || isMark c)

theorem addPlain_of_bare {pieces : List Lexeme} (h : ∀ text, pieces.head? ≠ some (.plain text)) (c : Char) :
    Lexeme.addPlain c pieces = .plain [c] :: pieces := by
  cases pieces with
  | nil =>
      rfl
  | cons first more =>
      cases first with
      | plain text =>
          exact absurd rfl (h text)
      | _ =>
          rfl

/-- What ends a value begins with no word or number. -/
theorem bare_of_endsValue {rest : List Char} (hrest : EndsValue rest) :
    ∀ text, (lexemes rest).head? ≠ some (.plain text) := by
  intro text
  cases rest with
  | nil =>
      intro h
      cases h
  | cons c rest =>
      have hc := hrest c rfl
      have hkind : c ≠ '"' ∧ (isBlank c = true ∨ isMark c = true) := by
        simp only [endsValue, Bool.or_eq_true, beq_iff_eq] at hc
        refine ⟨?_, ?_⟩
        · rintro rfl
          simp [isBlank] at hc
        · rcases hc with ((hblank | rfl) | rfl) | rfl
          · exact .inl hblank
          all_goals exact .inr rfl
      obtain ⟨hquote, hblank | hmark⟩ := hkind
      · simp [lexemes, lexemesFrom, hquote, hblank]
      · rw [lexemes_mark hmark]
        intro h
        cases h

/-- A word or number is one piece, if what follows ends a value. -/
theorem lexemes_plain {text rest : List Char} (hne : text ≠ [])
    (htext : ∀ c ∈ text, isPlainChar c = true) (hrest : EndsValue rest) :
    lexemes (text ++ rest) = .plain text :: lexemes rest := by
  induction text with
  | nil =>
      exact absurd rfl hne
  | cons c text ih =>
      obtain ⟨hc, htext⟩ := List.forall_mem_cons.1 htext
      simp only [isPlainChar, Bool.not_eq_true', Bool.or_eq_false_iff, beq_eq_false_iff_ne] at hc
      obtain ⟨⟨hquote, hblank⟩, hmark⟩ := hc
      have hstep : lexemes (c :: text ++ rest) = Lexeme.addPlain c (lexemes (text ++ rest)) := by
        simp [lexemes, lexemesFrom, hquote, hblank, hmark]
      rw [hstep]
      by_cases hlast : text = []
      · subst hlast
        exact addPlain_of_bare (bare_of_endsValue hrest) c
      · rw [ih hlast htext]
        rfl

end Json
end ApiView
