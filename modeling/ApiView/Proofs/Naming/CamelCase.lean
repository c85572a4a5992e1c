import Mathlib
import ApiView.Proofs.Naming.Paths

/-!
# CamelCase — one word made of many

A text is cut into words, and the words are put together again with capitals in place of what stood between
them.  In ASCII nothing else is lost:

* `words_eq_nil_iff`: only a text without letters and digits has no words;
* `joinCamel_append`: words that are put behind others get capitals;
* `map_toLower_joinCamel`: but for capitals and small letters, words are put together as they are;
* `IsSeparator`, `words_separated`: how words are set apart does not matter;
* `camelCase_conserves_and_joins`: letters and digits are kept, and a longer text has a longer word.
-/

namespace ApiView

namespace Text

/-- The letters and digits of ASCII. -/
theorem isAlphanumeric_of_ascii : ∀ c : Char, c.toNat < 128 → isAlphanumeric c = c.isAlphanum :=
  forall_ascii (by decide +kernel)

/-- Small letters are letters, and so are capitals. -/
theorem isAlphanum_toLower (c : Char) : c.toLower.isAlphanum = c.isAlphanum := by
  have hdigit : ∀ c : Char, c.toNat < 128 → c.toLower.isAlphanum = c.isAlphanum :=
    forall_ascii (by decide +kernel)
  by_cases hupper : c.isUpper = true
  · apply hdigit
    simp only [Char.isUpper, decide_eq_true_eq] at hupper
    exact Nat.lt_of_le_of_lt (UInt32.le_iff_toNat_le.1 hupper.2) (by decide)
  · rw [Char.toLower_eq_of_not_isUpper hupper]

end Text

namespace Naming

open Text (IsAscii)

variable {cs w : List Char} {ws more : List (List Char)}

/-! ## Words of a text -/

/-- A text has words if and only if it has a letter or a digit. -/
theorem words_eq_nil_iff : words cs = [] ↔ ∀ c ∈ cs, Text.isAlphanumeric c = false := by
  have hflat : words cs = [] ↔ (words cs).flatten = [] := by
    constructor
    · intro h
      rw [h, List.flatten_nil]
    · intro h
      refine List.eq_nil_iff_forall_not_mem.2 fun w hw => ?_
      exact ne_nil_of_mem_words hw (List.flatten_eq_nil_iff.1 h w hw)
  rw [hflat, flatten_words, List.filter_eq_nil_iff]
  simp

/-! ## Words in a row -/

/-- Words that are put behind others get capitals. -/
theorem joinCamel_append (hne : ws ≠ []) (more : List (List Char)) :
    joinCamel (ws ++ more) = joinCamel ws ++ more.flatMap capitalise := by
  cases ws with
  | nil =>
      exact absurd rfl hne
  | cons head rest =>
      simp [joinCamel]

theorem map_toLower_capitalise (hw : IsAscii w) :
    (capitalise w).map Char.toLower = w.map Char.toLower := by
  cases w with
  | nil =>
      rfl
  | cons c rest =>
      obtain ⟨hc, hrest⟩ := List.forall_mem_cons.1 hw
      simp [capitalise, Text.upperChar_of_ascii c hc, Text.lower_of_ascii hrest]

/-- But for capitals and small letters, words are put together as they are. -/
theorem map_toLower_joinCamel (hws : ∀ w ∈ ws, IsAscii w) :
    (joinCamel ws).map Char.toLower = ws.flatten.map Char.toLower := by
  cases ws with
  | nil =>
      rfl
  | cons head rest =>
      obtain ⟨hhead, hrest⟩ := List.forall_mem_cons.1 hws
      have hlower : (Text.lower head).map Char.toLower = head.map Char.toLower := by
        simp [Text.lower_of_ascii hhead]
      have hcapitals : (rest.flatMap capitalise).map Char.toLower = rest.flatten.map Char.toLower := by
        rw [List.map_flatMap, List.map_flatten]
        exact List.flatMap_congr fun w hw => map_toLower_capitalise (hrest w hw)
      simp only [joinCamel, List.flatten_cons, List.map_append, hlower, hcapitals]

/-- Words in a row begin with a small letter or a digit. -/
theorem isUpper_head_joinCamel (hne : ∀ w ∈ ws, w ≠ []) (hws : ∀ w ∈ ws, IsAscii w) :
    ∀ c ∈ (joinCamel ws).head?, c.isUpper = false := by
  intro c hc
  cases ws with
  | nil =>
      cases hc
  | cons head rest =>
      obtain ⟨d, head, rfl⟩ := List.exists_cons_of_ne_nil (hne _ List.mem_cons_self)
      rw [joinCamel, Text.lower_of_ascii (hws _ List.mem_cons_self)] at hc
      obtain rfl : d.toLower = c := by simpa using hc
      exact Char.isUpper_toLower_eq_false d

/-! ## Separators -/

/-- A text of ASCII characters that sets words apart: it is not empty and holds no letter or digit. -/
structure IsSeparator (z : String) : Prop where
  ascii : IsAscii z.toList
  nonempty : z ≠ ""
  apart : ∀ c ∈ z.toList, c.isAlphanum = false

/-- Separators at the start of a text add no words. -/
theorem words_append_of_forall (hcs : ∀ c ∈ cs, Text.isAlphanumeric c = false) (after : List Char) :
    words (cs ++ after) = words after := by
  induction cs with
  | nil =>
      rfl
  | cons c rest ih =>
      obtain ⟨hc, hrest⟩ := List.forall_mem_cons.1 hcs
      exact (words_cons hc (rest ++ after)).trans (ih hrest)

/-- The words on both sides of a separator, whatever it is. -/
theorem words_separated {z : String} (hz : IsSeparator z) (s t : String) :
    words (s ++ z ++ t).toList = words s.toList ++ words t.toList := by
  have hnone : ∀ c ∈ z.toList, Text.isAlphanumeric c = false := by
    intro c hc
    rw [Text.isAlphanumeric_of_ascii c (hz.ascii c hc)]
    exact hz.apart c hc
  obtain ⟨c, rest, hcons⟩ := List.exists_cons_of_ne_nil (l := z.toList) (by simpa using hz.nonempty)
  rw [hcons] at hnone
  obtain ⟨hc, hrest⟩ := List.forall_mem_cons.1 hnone
  calc
    words (s ++ z ++ t).toList
        = words (s.toList ++ c :: (rest ++ t.toList)) := by simp [hcons]
    _ = words s.toList ++ words (rest ++ t.toList) := words_append_cons hc _ _
    _ = words s.toList ++ words t.toList := by rw [words_append_of_forall hrest]

/-! ## Camel case -/

theorem toList_camelCase (s : String) : (camelCase s).toList = joinCamel (words s.toList) :=
  String.toList_ofList

/-- But for capitals and small letters, a text keeps its letters and digits. -/
theorem map_toLower_camelCase {t : String} (ht : IsAscii t.toList) :
    (camelCase t).toList.map Char.toLower = (t.toList.filter Char.isAlphanum).map Char.toLower := by
  have hclass : t.toList.filter Text.isAlphanumeric = t.toList.filter Char.isAlphanum :=
    List.filter_congr fun c hc => Text.isAlphanumeric_of_ascii c (ht c hc)
  rw [toList_camelCase, map_toLower_joinCamel (isAscii_of_mem_words ht), flatten_words, hclass]

/-- The camel-case word of an ASCII text has letters and digits only. -/
theorem isAlphanum_of_mem_camelCase {t : String} (ht : IsAscii t.toList) :
    ∀ c ∈ (camelCase t).toList, c.isAlphanum = true := by
  intro c hc
  have hlower : c.toLower ∈ (t.toList.filter Char.isAlphanum).map Char.toLower := by
    rw [← map_toLower_camelCase ht]
    exact List.mem_map_of_mem hc
  obtain ⟨d, hd, hsame⟩ := List.mem_map.1 hlower
  calc
    c.isAlphanum = c.toLower.isAlphanum := (Text.isAlphanum_toLower c).symm
    _ = d.toLower.isAlphanum := by rw [hsame]
    _ = d.isAlphanum := Text.isAlphanum_toLower d
    _ = true := (List.mem_filter.1 hd).2

/-- A text of ASCII characters becomes a word of letters and digits that does not begin with a capital and
that holds, but for capitals and small letters, the letters and digits of the text.  With a separator and
another text in front it becomes the word of the other text with its own words behind it, each with a
capital, or just its own word if the other text holds none; what the separator is does not matter. -/
theorem camelCase_conserves_and_joins {t : String} (ht : IsAscii t.toList) :
    (∀ c ∈ (camelCase t).toList, c.isAlphanum = true) ∧
    (∀ c ∈ (camelCase t).toList.head?, c.isUpper = false) ∧
    (camelCase t).toList.map Char.toLower = (t.toList.filter Char.isAlphanum).map Char.toLower ∧
    ∀ s z, IsAscii s.toList → IsSeparator z →
      (∀ z', IsSeparator z' → camelCase (s ++ z ++ t) = camelCase (s ++ z' ++ t)) ∧
      ((∀ c ∈ s.toList, c.isAlphanum = false) → camelCase (s ++ z ++ t) = camelCase t) ∧
      ((∃ c ∈ s.toList, c.isAlphanum = true) →
        camelCase (s ++ z ++ t) =
          camelCase s ++ String.ofList ((words t.toList).flatMap capitalise)) := by
  have hhead : ∀ c ∈ (camelCase t).toList.head?, c.isUpper = false := by
    rw [toList_camelCase]
    exact isUpper_head_joinCamel (fun w => ne_nil_of_mem_words) (isAscii_of_mem_words ht)
  refine ⟨isAlphanum_of_mem_camelCase ht, hhead, map_toLower_camelCase ht, fun s z hs hz => ?_⟩
  -- A text without letters and digits has no words.
  have hnone : words s.toList = [] ↔ ∀ c ∈ s.toList, c.isAlphanum = false := by
    rw [words_eq_nil_iff]
    exact forall₂_congr fun c hc => by rw [Text.isAlphanumeric_of_ascii c (hs c hc)]
  refine ⟨fun z' hz' => ?_, fun h => ?_, fun ⟨c, hc, hletter⟩ => ?_⟩
  · unfold camelCase
    rw [words_separated hz, words_separated hz']
  · unfold camelCase
    rw [words_separated hz, hnone.2 h, List.nil_append]
  · have hne : words s.toList ≠ [] := by
      intro h
      have hc' := hnone.1 h c hc
      rw [hletter] at hc'
      cases hc'
    unfold camelCase
    rw [words_separated hz, joinCamel_append hne, String.ofList_append]

/-- A text that begins with a separator and holds an acronym and a digit. -/
def headerText : String :=
  "-request-ID2"

theorem headerText_conserves_and_joins :
    IsAscii headerText.toList ∧ IsAscii "X".toList ∧ IsSeparator "_ -" ∧
      camelCase headerText = "requestId2" ∧
      (camelCase headerText).toList.map Char.toLower =
        (headerText.toList.filter Char.isAlphanum).map Char.toLower ∧
      camelCase ("X" ++ "_ -" ++ headerText) = camelCase "X" ++ "RequestId2" := by
  have htext : IsAscii headerText.toList := by decide
  have hfront : IsAscii "X".toList := by decide
  have hapart : ("_ -".toList.all fun c => !c.isAlphanum) = true := by decide
  have hseparator : IsSeparator "_ -" :=
    ⟨by decide, by decide, fun c hc => by simpa using List.all_eq_true.1 hapart c hc⟩
  have hcamel : camelCase headerText = "requestId2" := by decide +kernel
  have hcapitals : String.ofList ((words headerText.toList).flatMap capitalise) = "RequestId2" := by
    decide +kernel
  obtain ⟨-, -, hkept, hjoins⟩ := camelCase_conserves_and_joins htext
  obtain ⟨-, -, hlonger⟩ := hjoins "X" "_ -" hfront hseparator
  refine ⟨htext, hfront, hseparator, hcamel, hkept, ?_⟩
  rw [hlonger ⟨'X', by decide, by decide⟩, hcapitals]

end Naming
end ApiView
