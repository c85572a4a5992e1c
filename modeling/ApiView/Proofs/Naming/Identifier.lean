import ApiView.Naming.Method
import ApiView.Proofs.Text.Classes
import ApiView.Proofs.Text.Pieces

/-!
# Identifier — which names are identifiers

An explicit id is made into an identifier, the name of a verb and a path is put together from words, and a
name that is taken gets a suffix.  Only the first of these looks at the characters that come out:

* `IsName`, `IsIdentifier`: rows of allowed characters that do not begin with a digit;
* `isIdentifier_identifierChars`, `identifier_eq_self_iff`: an explicit id becomes an identifier, and
  identifiers are what is left as it is;
* `IsName.suffixed`: a suffix keeps a name;
* `flatten_words`, `of_mem_words`: the words of a text are its letters and digits;
* `isName_pathName`, `IsName.isIdentifier_iff`: the name of a verb and a path is an identifier, unless
  letters leave marks behind when they change their case.
-/

namespace ApiView
namespace Naming

/-! ## Identifiers -/

/-- A row of allowed characters that does not begin with a digit. -/
structure IsName (allowed : Char → Prop) (cs : List Char) : Prop where
  chars : ∀ c ∈ cs, allowed c
  start : ∃ c rest, cs = c :: rest ∧ Text.isDigit c = false

/-- A name of identifier characters. -/
abbrev IsIdentifier (cs : List Char) : Prop :=
  IsName (fun c => isIdentifierChar c = true) cs

/-- More allowed characters may follow a name. -/
theorem IsName.append {allowed : Char → Prop} {cs more : List Char} (h : IsName allowed cs)
    (hmore : ∀ c ∈ more, allowed c) : IsName allowed (cs ++ more) := by
  obtain ⟨c, rest, rfl, hdigit⟩ := h.start
  exact ⟨List.forall_mem_append.2 ⟨h.chars, hmore⟩, c, rest ++ more, rfl, hdigit⟩

theorem IsName.imp {allowed allowed' : Char → Prop} {cs : List Char}
    (himp : ∀ c ∈ cs, allowed c → allowed' c) (h : IsName allowed cs) : IsName allowed' cs :=
  ⟨fun c hc => himp c hc (h.chars c hc), h.start⟩

/-- Every code becomes a character of identifiers. -/
theorem isIdentifierChar_identifierChar (n : Nat) : isIdentifierChar (identifierChar n) = true := by
  unfold identifierChar
  split
  · assumption
  · rfl

/-- An explicit id becomes an identifier, whatever it holds. -/
theorem isIdentifier_identifierChars (cs : List Char) : IsIdentifier (identifierChars cs) := by
  rw [identifierChars]
  generalize hmapped : (Text.codes (Text.trim cs)).map identifierChar = mapped
  have hchars : ∀ c ∈ mapped, isIdentifierChar c = true := by
    intro c hc
    rw [← hmapped] at hc
    obtain ⟨n, _, rfl⟩ := List.mem_map.1 hc
    exact isIdentifierChar_identifierChar n
  cases mapped with
  | nil =>
      refine ⟨?_, '_', [], rfl, by decide⟩
      intro c hc
      rw [List.mem_singleton.1 hc]
      rfl
  | cons c rest =>
      by_cases hdigit : Text.isDigit c = true
      · rw [guardStart, if_pos hdigit]
        refine ⟨?_, '_', c :: rest, rfl, by decide⟩
        exact List.forall_mem_cons.2 ⟨rfl, hchars⟩
      · rw [guardStart, if_neg hdigit]
        exact ⟨hchars, c, rest, rfl, by simpa using hdigit⟩

/-- Identifier characters are the characters of words and the dollar sign. -/
theorem isIdentifierChar_iff (c : Char) :
    isIdentifierChar c = true ↔ Text.isWordChar c = true ∨ c = '$' := by
  rw [isIdentifierChar, Bool.or_eq_true, beq_iff_eq]

/-- Characters of identifiers are not blank. -/
theorem not_isBlank_of_isIdentifierChar {c : Char} :
    isIdentifierChar c = true → Text.isBlank c = false := by
  intro h
  rcases (isIdentifierChar_iff c).1 h with hword | rfl
  · exact Text.not_isBlank_of_isWordChar hword
  · decide

theorem lt_halfPlane_of_isIdentifierChar {c : Char} :
    isIdentifierChar c = true → c.toNat < Text.halfPlane := by
  intro h
  rcases (isIdentifierChar_iff c).1 h with hword | rfl
  · exact Text.lt_halfPlane_of_isWordChar hword
  · decide

/-- An identifier has nothing around it to cut off. -/
theorem trim_of_identifierChars {cs : List Char} (h : ∀ c ∈ cs, isIdentifierChar c = true) :
    Text.trim cs = cs := by
  have hkept : ∀ ds : List Char, (∀ c ∈ ds, isIdentifierChar c = true) →
      ds.dropWhile Text.isBlank = ds := by
    intro ds hds
    cases ds with
    | nil =>
        rfl
    | cons d rest =>
        have hd := not_isBlank_of_isIdentifierChar (hds d List.mem_cons_self)
        exact List.dropWhile_cons_of_neg (by simp [hd])
  have hback := hkept cs.reverse fun c hc => h c (List.mem_reverse.1 hc)
  rw [Text.trim, Text.trimLeft, hkept cs h, Text.trimRight, hback, List.reverse_reverse]

/-- A row of identifier characters has no guards in it. -/
theorem codes_of_identifierChars {cs : List Char} (h : ∀ c ∈ cs, isIdentifierChar c = true) :
    Text.codes cs = cs.map Char.toNat :=
  Text.codes_of_lt fun c hc => lt_halfPlane_of_isIdentifierChar (h c hc)

/-- An identifier is its own identifier. -/
theorem IsIdentifier.identifierChars_eq {cs : List Char} (h : IsIdentifier cs) :
    identifierChars cs = cs := by
  have hmapped : (cs.map Char.toNat).map identifierChar = cs := by
    rw [List.map_map]
    refine (List.map_congr_left fun c hc => ?_).trans (List.map_id cs)
    rw [Function.comp_apply, identifierChar, Char.ofNat_toNat, if_pos (h.chars c hc), id]
  obtain ⟨c, rest, rfl, hdigit⟩ := h.start
  rw [identifierChars, trim_of_identifierChars h.chars, codes_of_identifierChars h.chars, hmapped,
    guardStart, if_neg (by simp [hdigit])]

/-- Identifiers are the texts that are left as they are. -/
theorem identifier_eq_self_iff (name : String) :
    identifier name = name ↔ IsIdentifier name.toList := by
  constructor
  · intro h
    have hidentifier := isIdentifier_identifierChars name.toList
    have hchars : identifierChars name.toList = name.toList := by
      rw [← String.toList_ofList (l := identifierChars name.toList)]
      exact congrArg String.toList h
    rwa [hchars] at hidentifier
  · intro h
    rw [identifier, h.identifierChars_eq, String.ofList_toList]

/-! ## Suffixes -/

theorem isIdentifierChar_of_mem_toDigits {k : Nat} {c : Char} :
    c ∈ Nat.toDigits 10 k → isIdentifierChar c = true := by
  intro h
  have hdigit := Nat.isDigit_of_mem_toDigits (by decide) (by decide) h
  rw [Char.isDigit, Bool.and_eq_true, decide_eq_true_eq, decide_eq_true_eq] at hdigit
  have hascii : c.toNat < 128 := Nat.lt_of_le_of_lt (UInt32.le_iff_toNat_le.1 hdigit.2) (by decide)
  have hrange : (decide ('0' ≤ c) && decide (c ≤ '9')) = true := by
    rw [Bool.and_eq_true, decide_eq_true_eq, decide_eq_true_eq]
    exact hdigit
  have hletter : Text.isAlphanumeric c = true := by
    rw [Text.isAlphanumeric, if_pos hascii, hrange, Bool.true_or, Bool.true_or]
  rw [isIdentifierChar, Text.isWordChar, hletter, Bool.true_or, Bool.true_or]

/-- A numbered suffix keeps a name. -/
theorem IsName.suffixed {allowed : Char → Prop} {name : String} (h : IsName allowed name.toList)
    (hallowed : ∀ c, isIdentifierChar c = true → allowed c) (k : Nat) :
    IsName allowed (Allocator.suffixed name k).toList := by
  have hsuffix : ∀ c ∈ '_' :: Nat.toDigits 10 k, allowed c := by
    intro c hc
    rcases List.mem_cons.1 hc with rfl | hdigit
    · exact hallowed '_' rfl
    · exact hallowed c (isIdentifierChar_of_mem_toDigits hdigit)
  have hlist : (Allocator.suffixed name k).toList = name.toList ++ '_' :: Nat.toDigits 10 k := by
    simp [Allocator.suffixed]
  rw [hlist]
  exact h.append hsuffix

/-! ## Words -/

/-- Cutting a run into words loses nothing. -/
theorem flatten_splitAfter (word : List Char) (last : Char) (rest : List Char) :
    (splitAfter word last rest).flatten = word ++ last :: rest := by
  induction rest generalizing word last with
  | nil =>
      simp [splitAfter]
  | cons c rest ih =>
      rw [splitAfter]
      split_ifs
      all_goals
        simp [ih]

/-- Splitting a run into words loses nothing. -/
theorem flatten_splitRun (run : List Char) : (splitRun run).flatten = run := by
  cases run with
  | nil =>
      rfl
  | cons c rest =>
      exact flatten_splitAfter [] c rest

/-- The words of a text are its letters and digits. -/
theorem flatten_words (cs : List Char) : (words cs).flatten = cs.filter Text.isAlphanumeric := by
  calc
    (words cs).flatten
        = (runs cs).flatMap fun run => (splitRun run).flatten := by
          rw [words, List.flatMap_def, List.flatten_flatten, List.map_map, List.flatMap_def]
          rfl
    _ = (runs cs).flatten := by
          simp only [flatten_splitRun, List.flatMap_id']
    _ = cs.filter Text.isAlphanumeric := Text.flatten_runsAfter Text.isAlphanumeric [] cs

/-- A word consists of letters and digits of its text. -/
theorem of_mem_words {cs word : List Char} :
    word ∈ words cs → ∀ c ∈ word, c ∈ cs ∧ Text.isAlphanumeric c = true := by
  intro h c hc
  have hflat : c ∈ (words cs).flatten := List.mem_flatten.2 ⟨word, h, hc⟩
  rw [flatten_words] at hflat
  exact List.mem_filter.1 hflat

/-! ## Names of paths -/

/-- What names of paths may hold: identifier characters, and marks that letters leave behind in another
case. -/
def IsMarkedChar (c : Char) : Prop :=
  isIdentifierChar c = true ∨ c ∈ Text.caseMarks

theorem isMarkedChar_of_isMapped {c : Char} : Text.isMapped c = true → IsMarkedChar c := by
  intro h
  rw [Text.isMapped, Bool.or_eq_true] at h
  rcases h with hletter | hmark
  · left
    rw [isIdentifierChar, Text.isWordChar, hletter, Bool.true_or, Bool.true_or]
  · exact Or.inr (List.contains_iff_mem.1 hmark)

theorem IsMarkedChar.lt_halfPlane {c : Char} : IsMarkedChar c → c.toNat < Text.halfPlane := by
  have hmarks : (Text.caseMarks.all fun c => c.toNat < Text.halfPlane) = true := by decide +kernel
  rintro (hchar | hmark)
  · exact lt_halfPlane_of_isIdentifierChar hchar
  · exact of_decide_eq_true (List.all_eq_true.1 hmarks c hmark)

/-- Letters and digits are among the characters that case mappings keep. -/
theorem isMapped_of_isAlphanumeric {cs : List Char} :
    (∀ c ∈ cs, Text.isAlphanumeric c = true) → ∀ c ∈ cs, Text.isMapped c = true := by
  intro h c hc
  rw [Text.isMapped, h c hc, Bool.true_or]

theorem isMapped_capitalise {word : List Char} :
    (∀ c ∈ word, Text.isMapped c = true) → ∀ d ∈ capitalise word, Text.isMapped d = true := by
  intro h d hd
  cases word with
  | nil =>
      cases hd
  | cons c rest =>
      rcases List.mem_append.1 hd with hhead | hrest
      · exact Text.isMapped_upperChar (h c List.mem_cons_self) d hhead
      · exact Text.isMapped_lower (fun e he => h e (List.mem_cons_of_mem c he)) d hrest

/-- Words put together again hold letters, numbers and marks. -/
theorem isMapped_joinCamel {ws : List (List Char)} :
    (∀ word ∈ ws, ∀ c ∈ word, Text.isAlphanumeric c = true) →
      ∀ d ∈ joinCamel ws, Text.isMapped d = true := by
  intro h d hd
  cases ws with
  | nil =>
      cases hd
  | cons head rest =>
      rcases List.mem_append.1 hd with hhead | hrest
      · exact Text.isMapped_lower (isMapped_of_isAlphanumeric (h head List.mem_cons_self)) d hhead
      · obtain ⟨word, hword, hmem⟩ := List.mem_flatMap.1 hrest
        have hmapped := isMapped_of_isAlphanumeric (h word (List.mem_cons_of_mem head hword))
        exact isMapped_capitalise hmapped d hmem

/-- A camel-case word holds no half of a pair, whatever text it is made of. -/
theorem isWhole_camelCase (s : String) : Text.isWhole (camelCase s) = true := by
  rw [Text.isWhole_iff, camelCase, String.toList_ofList]
  refine Text.noHalf_of_lt fun c hc => (isMarkedChar_of_isMapped ?_).lt_halfPlane
  exact isMapped_joinCamel (fun word hword d hd => (of_mem_words hword d hd).2) c hc

/-- The name of a verb and a path is a name, but letters may leave marks behind. -/
theorem isName_pathName {verb : String} (hverb : IsIdentifier (Text.lower verb.toList))
    (path : String) : IsName IsMarkedChar (pathName verb path).toList := by
  have hstart : IsName IsMarkedChar (Text.lower verb.toList) := hverb.imp fun _ _ => Or.inl
  have hjoined : ∀ d ∈ joinCamel (words (pathText (segments path.toList))),
      Text.isMapped d = true :=
    isMapped_joinCamel fun word hword d hd => (of_mem_words hword d hd).2
  rw [pathName, String.toList_ofList, pathNameChars]
  cases hcamel : joinCamel (words (pathText (segments path.toList))) with
  | nil =>
      rwa [List.append_nil]
  | cons c rest =>
      rw [hcamel] at hjoined
      -- The first letter changes its case once more.
      have hfirst := Text.isMapped_upperChar (hjoined c List.mem_cons_self)
      have hrest : ∀ d ∈ rest, Text.isMapped d = true := fun d hd =>
        hjoined d (List.mem_cons_of_mem c hd)
      refine hstart.append fun d hd => isMarkedChar_of_isMapped ?_
      exact List.forall_mem_append.2 ⟨hfirst, hrest⟩ d hd

/-- No mark is an identifier character. -/
theorem not_isIdentifierChar_of_mem_caseMarks :
    ∀ c ∈ Text.caseMarks, isIdentifierChar c = false := by
  have hall : (Text.caseMarks.all fun c => !isIdentifierChar c) = true := by decide +kernel
  intro c hc
  simpa using List.all_eq_true.1 hall c hc

/-- What tells a name that may hold marks from an identifier is that it holds some. -/
theorem IsName.isIdentifier_iff {cs : List Char} (h : IsName IsMarkedChar cs) :
    IsIdentifier cs ↔ ∀ c ∈ cs, c ∉ Text.caseMarks := by
  constructor
  · intro hidentifier c hc hmark
    have hno := not_isIdentifierChar_of_mem_caseMarks c hmark
    rw [hidentifier.chars c hc] at hno
    cases hno
  · intro hunmarked
    exact h.imp fun c hc hchar => hchar.resolve_right (hunmarked c hc)

end Naming
end ApiView
