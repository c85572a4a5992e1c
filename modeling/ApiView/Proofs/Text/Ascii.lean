import ApiView.Text.LetterCase

/-!
# Ascii — case in ASCII texts

Beyond ASCII a letter may become several in another case, and the small form of a sigma depends on what
stands around it.  In ASCII every character has one other form, whatever its surroundings:

* `forall_ascii`: what holds of the first 128 code points holds of all ASCII characters;
* `lowerChar_of_ascii`, `upperChar_of_ascii`: the other forms of a character are those of the library;
* `lower_of_ascii`: a text in small letters is its characters in small letters;
* `upperChar_toLower`: small letters have the same capitals.
-/

namespace ApiView
namespace Text

variable {c : Char} {cs : List Char}

/-- A text of ASCII characters. -/
def IsAscii (cs : List Char) : Prop :=
  ∀ c ∈ cs, c.toNat < 128

instance (cs : List Char) : Decidable (IsAscii cs) :=
  List.decidableBAll (fun c : Char => c.toNat < 128) cs

/-- What holds of the first 128 code points holds of all ASCII characters. -/
theorem forall_ascii {P : Char → Prop} (h : ∀ n < 128, P (Char.ofNat n)) :
    ∀ c : Char, c.toNat < 128 → P c := by
  intro c hc
  have hcode := h c.toNat hc
  rwa [Char.ofNat_toNat] at hcode

/-- The other forms of the first 128 code points, tried one by one. -/
theorem forms_of_ascii :
    ∀ n < 128, lowerChar (Char.ofNat n) = [(Char.ofNat n).toLower] ∧
      upperChar (Char.ofNat n) = [(Char.ofNat n).toUpper] ∧ (Char.ofNat n).toUpper.toNat < 128 ∧
        upperChar (Char.ofNat n).toLower = upperChar (Char.ofNat n) := by
  decide +kernel

theorem lowerChar_of_ascii : ∀ c : Char, c.toNat < 128 → lowerChar c = [c.toLower] :=
  forall_ascii fun n hn => (forms_of_ascii n hn).1

theorem upperChar_of_ascii : ∀ c : Char, c.toNat < 128 → upperChar c = [c.toUpper] :=
  forall_ascii fun n hn => (forms_of_ascii n hn).2.1

theorem toUpper_lt_of_ascii : ∀ c : Char, c.toNat < 128 → c.toUpper.toNat < 128 :=
  forall_ascii fun n hn => (forms_of_ascii n hn).2.2.1

/-- A text in small letters, whatever stands before it. -/
theorem lowerFrom_of_ascii (hcs : IsAscii cs) (afterCased : Bool) :
    lowerFrom afterCased cs = cs.map Char.toLower := by
  induction cs generalizing afterCased with
  | nil =>
      rfl
  | cons c rest ih =>
      obtain ⟨hc, hrest⟩ := List.forall_mem_cons.1 hcs
      have hsigma : c ≠ 'Σ' := by
        rintro rfl
        exact absurd hc (by decide)
      rw [lowerFrom, ih hrest, List.map_cons, if_neg (by simpa using hsigma),
        lowerChar_of_ascii c hc, List.singleton_append]

theorem lower_of_ascii (hcs : IsAscii cs) : lower cs = cs.map Char.toLower :=
  lowerFrom_of_ascii hcs false

/-- Small letters have the same capitals. -/
theorem upperChar_toLower (c : Char) : upperChar c.toLower = upperChar c := by
  by_cases hascii : c.toNat < 128
  · exact forall_ascii (P := fun c => upperChar c.toLower = upperChar c)
      (fun n hn => (forms_of_ascii n hn).2.2.2) c hascii
  · -- Beyond ASCII there are no capitals to make small.
    have hcapital : ¬ (c.val ≥ 'A'.val ∧ c.val ≤ 'Z'.val) := by
      rintro ⟨_, hlast⟩
      exact hascii (Nat.lt_of_le_of_lt (UInt32.le_iff_toNat_le.1 hlast) (by decide))
    have hsame : c.toLower = c := dif_neg hcapital
    rw [hsame]

end Text
end ApiView
