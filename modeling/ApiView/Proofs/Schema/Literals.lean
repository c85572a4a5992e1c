import ApiView.Proofs.Json.Numbers
import ApiView.Proofs.Schema.Closed
import ApiView.Proofs.Text.Ascii
import ApiView.Proofs.Text.Pieces
import ApiView.TypeText

/-!
# Literals — values in types

The values of an enumeration stand in a type as compact JSON.  Whatever the value, its line closes what it
opens and no bar parts it: numbers are plain, texts and keys are literals in which quotes are escaped, and
lists and mappings have brackets around them:

* `keepsLiteral_escapeAscii`: an escaped code stays inside of the literal that it stands in;
* `isSolid_intText`, `isSolid_floatText`: numbers are plain;
* `isSolid_compact`: the line of a value is solid;
* `isSolid_of_literal`: so is every literal type.
-/

namespace ApiView
namespace TypeText

variable {c : Char} {cs xs ys : List Char}

/-! ## Numbers -/

theorem arePlain_append : arePlain (xs ++ ys) = true ↔ arePlain xs = true ∧ arePlain ys = true := by
  rw [arePlain, List.all_append, Bool.and_eq_true, arePlain, arePlain]

theorem arePlain_cons : arePlain (c :: cs) = true ↔ isPlain c = true ∧ arePlain cs = true := by
  rw [arePlain, List.all_cons, Bool.and_eq_true, arePlain]

theorem arePlain_of_subset (hsub : xs ⊆ ys) (h : arePlain ys = true) : arePlain xs = true :=
  List.all_eq_true.2 fun c hc => List.all_eq_true.1 h c (hsub hc)

theorem isPlain_of_isDigit (hc : Json.isDigit c = true) : isPlain c = true := by
  have hascii : c.toNat < 128 := by
    rw [Json.isDigit, Bool.and_eq_true, decide_eq_true_eq, decide_eq_true_eq] at hc
    exact Nat.lt_of_le_of_lt (Char.le_def.1 hc.2) (by decide)
  exact Text.forall_ascii (P := fun c => Json.isDigit c = true → isPlain c = true)
    (by decide +kernel) c hascii hc

theorem arePlain_toDigits (n : Nat) : arePlain (Nat.toDigits 10 n) = true :=
  List.all_eq_true.2 fun _ hc => isPlain_of_isDigit (Json.isDigit_of_mem_toDigits hc)

/-- An integer in writing is solid. -/
theorem isSolid_intText (i : Int) : IsSolid (Json.intText i) := by
  have hdigits := isSolid_of_plain (arePlain_toDigits i.natAbs)
  rcases Json.intText_cases i with ⟨_, htext⟩ | ⟨_, htext⟩
  · rw [htext]
    exact hdigits
  · rw [htext]
    exact IsSolid.cons (by decide) hdigits

theorem arePlain_zeros (n : Nat) : arePlain (List.replicate n '0') = true := by
  refine List.all_eq_true.2 fun c hc => ?_
  rw [List.eq_of_mem_replicate hc]
  rfl

theorem arePlain_positional {digits : List Char} (h : arePlain digits = true) (n : Int) :
    arePlain (Binary64.positional digits n) = true := by
  have htake := arePlain_of_subset (List.take_subset n.toNat digits) h
  have hdrop := arePlain_of_subset (List.drop_subset n.toNat digits) h
  unfold Binary64.positional
  split_ifs
  · exact arePlain_append.2 ⟨arePlain_zeros _, h⟩
  · exact arePlain_append.2 ⟨arePlain_append.2 ⟨h, arePlain_zeros _⟩, rfl⟩
  · exact arePlain_append.2 ⟨htake, arePlain_cons.2 ⟨rfl, hdrop⟩⟩

theorem arePlain_scientific {digits : List Char} (h : arePlain digits = true) (exp : Int) :
    arePlain (Binary64.scientific digits exp) = true := by
  have htake := arePlain_of_subset (List.take_subset 1 digits) h
  have hdrop := arePlain_of_subset (List.drop_subset 1 digits) h
  have hsize := arePlain_toDigits exp.natAbs
  have hfraction : arePlain (if digits.length ≤ 1 then [] else '.' :: digits.drop 1) = true := by
    split_ifs
    · rfl
    · exact arePlain_cons.2 ⟨rfl, hdrop⟩
  have hpadded : arePlain (if (Binary64.decimalDigits exp.natAbs).length < 2
      then '0' :: Binary64.decimalDigits exp.natAbs else Binary64.decimalDigits exp.natAbs) = true := by
    split_ifs
    · exact arePlain_cons.2 ⟨rfl, hsize⟩
    · exact hsize
  have hsign : isPlain (if exp < 0 then '-' else '+') = true := by
    split_ifs <;> rfl
  exact arePlain_append.2 ⟨arePlain_append.2 ⟨htake, hfraction⟩,
    arePlain_cons.2 ⟨rfl, arePlain_cons.2 ⟨hsign, hpadded⟩⟩⟩

/-- The written form of a double is plain. -/
theorem arePlain_text (x : Binary64) : arePlain x.text.toList = true := by
  have hsign : arePlain (if x.negative then "-" else "").toList = true := by
    split_ifs <;> rfl
  unfold Binary64.text
  dsimp only
  -- The sign gets a name, so that only the forms behind it are told apart.
  generalize (if x.negative then "-" else "") = sign at hsign ⊢
  split_ifs
  · rfl
  · rw [String.toList_append]
    exact arePlain_append.2 ⟨hsign, rfl⟩
  · rw [String.toList_append]
    exact arePlain_append.2 ⟨hsign, rfl⟩
  · rw [String.toList_append, String.toList_ofList]
    exact arePlain_append.2 ⟨hsign, arePlain_positional (arePlain_toDigits _) _⟩
  · rw [String.toList_append, String.toList_ofList]
    exact arePlain_append.2 ⟨hsign, arePlain_scientific (arePlain_toDigits _) _⟩

/-- A double in writing is solid. -/
theorem isSolid_floatText (x : Binary64) : IsSolid (Json.floatText x).toList := by
  apply isSolid_of_plain
  unfold Json.floatText
  split_ifs
  · rfl
  · rfl
  · rfl
  · exact arePlain_text x

/-! ## Texts -/

theorem exists_of_mem_hexPadded {width n : Nat} (hc : c ∈ Text.hexPadded width n) :
    ∃ m < 16, c = Text.hexDigit m := by
  induction width generalizing n with
  | zero =>
      cases hc
  | succ width ih =>
      rw [Text.hexPadded] at hc
      rcases List.mem_append.1 hc with hhigh | hlow
      · exact ih hhigh
      · exact ⟨n % 16, Nat.mod_lt n (by decide), List.mem_singleton.1 hlow⟩

theorem keepsLiteral_unitEscape (n : Nat) : KeepsLiteral '"' (Json.unitEscape n) := by
  have hdigit : ∀ m < 16, Text.hexDigit m ≠ '"' ∧ Text.hexDigit m ≠ '\\' := by decide
  refine KeepsLiteral.escaped 'u' (KeepsLiteral.of_forall fun c hc => ?_)
  obtain ⟨m, hm, rfl⟩ := exists_of_mem_hexPadded hc
  exact hdigit m hm

theorem keepsLiteral_shortEscape {n : Nat} {piece : List Char}
    (h : Json.shortEscape? n = some piece) : KeepsLiteral '"' piece := by
  simp only [Json.shortEscape?] at h
  split_ifs at h
  all_goals
    cases h
    exact KeepsLiteral.escaped _ KeepsLiteral.nil

/-- Whatever the code, its escape stays inside of the literal. -/
theorem keepsLiteral_escapeAscii (n : Nat) : KeepsLiteral '"' (Json.escapeAscii n) := by
  unfold Json.escapeAscii
  cases hshort : Json.shortEscape? n with
  | some piece =>
      exact keepsLiteral_shortEscape hshort
  | none =>
      dsimp only
      split_ifs with hprintable hplane
      · -- The quote and the backslash have short escapes.
        have hkept : ∀ m ≤ 0x7E, Json.shortEscape? m = none →
            Char.ofNat m ≠ '"' ∧ Char.ofNat m ≠ '\\' := by
          decide +kernel
        rw [Bool.and_eq_true, decide_eq_true_eq, decide_eq_true_eq] at hprintable
        obtain ⟨hquote, hbackslash⟩ := hkept n hprintable.2 hshort
        exact KeepsLiteral.cons hquote hbackslash KeepsLiteral.nil
      · exact keepsLiteral_unitEscape n
      · exact (keepsLiteral_unitEscape _).append (keepsLiteral_unitEscape _)

/-- A string between quotes is solid. -/
theorem isSolid_quoted (s : String) : IsSolid (Json.quoted Json.escapeAscii s) :=
  (KeepsLiteral.flatMap keepsLiteral_escapeAscii (Text.codes s.toList)).quoted rfl

/-! ## Values -/

/-- A leaf in writing is solid. -/
theorem isSolid_scalarText (s : Scalar) : IsSolid (Json.scalarText Json.escapeAscii s) := by
  cases s with
  | null =>
      exact isSolid_of_plain (by decide)
  | bool b =>
      cases b <;> exact isSolid_of_plain (by decide)
  | int i =>
      exact isSolid_intText i
  | float x =>
      exact isSolid_floatText x
  | str s =>
      exact isSolid_quoted s
  | date d =>
      exact isSolid_quoted (Scalar.date d).display
  | dateTime t =>
      exact isSolid_quoted (Scalar.dateTime t).display
  | bytes b =>
      exact isSolid_quoted (Scalar.bytes b).display

/-- Solid texts between brackets, with a comma between each two. -/
theorem isSolid_block {opening closing : Char} (hopening : isOpening opening = true)
    (hclosing : isClosing closing = true) {texts : List (List Char)}
    (htexts : ∀ text ∈ texts, IsSolid text) :
    IsSolid (opening :: (Text.joinWith [',', ' '] texts ++ [closing])) := by
  have hcomma : IsSolid [',', ' '] := isSolid_of_plain (by decide)
  rw [Text.joinWith_eq_intercalate]
  exact (IsSolid.intercalate hcomma htexts).toIsClosed.bracketed hopening hclosing

mutual

/-- The line of a value is solid. -/
theorem isSolid_compact : (v : Value) → IsSolid (Json.compact v)
  | .scalar s => isSolid_scalarText s
  | .again _ _ => by
      have hnull : arePlain "null".toList = true := by decide
      exact isSolid_of_plain hnull
  | .list items => isSolid_block rfl rfl (isSolid_compactItems items)
  | .pair k v => by
      have hkey := isSolid_compact k
      have hvalue := isSolid_compact v
      exact isSolid_block rfl rfl (by simp [hkey, hvalue])
  | .set _ => isSolid_quoted _
  | .map entries => isSolid_block rfl rfl (isSolid_compactMembers entries)

/-- The compact texts of items are solid. -/
theorem isSolid_compactItems : (items : List Value) → ∀ text ∈ Json.compactItems items, IsSolid text
  | [] => fun _ hmem => by cases hmem
  | v :: rest => by
      rw [Json.compactItems, List.forall_mem_cons]
      exact ⟨isSolid_compact v, isSolid_compactItems rest⟩

theorem isSolid_compactMembers :
    (entries : List (Scalar × Value)) → ∀ text ∈ Json.compactMembers entries, IsSolid text
  | [] => fun _ hmem => by cases hmem
  | (key, v) :: rest => by
      have hvalue := isSolid_compact v
      have hcolon : IsSolid (':' :: ' ' :: Json.compact v) :=
        IsSolid.cons (by decide) (IsSolid.cons (by decide) hvalue)
      rw [Json.compactMembers, List.forall_mem_cons]
      exact ⟨(isSolid_quoted _).append hcolon, isSolid_compactMembers rest⟩

end

/-- A literal type is solid. -/
theorem isSolid_of_literal {v : Value} {text : String} (h : literal v = .ok text) :
    IsSolid text.toList := by
  unfold literal at h
  split at h
  · cases h
    rw [String.toList_ofList]
    exact isSolid_compact v
  · cases h

end TypeText
end ApiView
