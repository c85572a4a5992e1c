import Mathlib.Data.List.Basic
import ApiView.Proofs.Text.Kept
import ApiView.Text.Charset
import ApiView.Text.Utf8

/-!
# Bytes — two readers of UTF-8

UTF-8 is read in two ways: a row of bytes is a text as a whole or none, or else it is read one byte after
the other and what goes on with no character leaves a replacement.

* `ofByte?_two`, `ofByte?_three`, `ofByte?_four`, `stepUtf8_begun`: what a byte of a character begins, and
  what it goes on with;
* `utf8After_encodeChar`, `utf8After_encode`: the bytes of characters are read as these characters, whatever
  is behind them;
* `utf8After_stray`, `utf8After_cut`: a byte that begins nothing is replaced, and so is a character that
  another byte cuts off;
* `ofUtf8?_eq_some_iff`: the two readers agree on every text.
-/

namespace ApiView
namespace Text

/-! ## Single bytes -/

/-- The first byte of two. -/
theorem ofByte?_two : ∀ n < 32, 2 ≤ n →
    Begun.ofByte? (UInt8.ofNat (n + 192)) = some { value := n, missing := 1 } := by
  decide +kernel

/-- The first byte of three.  After the least one a character may not be written longer than it has to be,
and after another one it may not be a half of a pair. -/
theorem ofByte?_three : ∀ n < 16,
    Begun.ofByte? (UInt8.ofNat (n + 224)) =
      some
        { value := n
          missing := 2
          low := if n = 0 then 0xA0 else 0x80
          high := if n = 13 then 0x9F else 0xBF } := by
  decide +kernel

/-- The first byte of four.  After the greatest one a character may not be beyond the range. -/
theorem ofByte?_four : ∀ n < 5,
    Begun.ofByte? (UInt8.ofNat (n + 240)) =
      some
        { value := n
          missing := 3
          low := if n = 0 then 0x90 else 0x80
          high := if n = 4 then 0x8F else 0xBF } := by
  decide +kernel

/-! ## Single steps -/

/-- A byte that begins a character of several bytes. -/
theorem utf8After_first {b : UInt8} {begun : Begun} (hbegun : Begun.ofByte? b = some begun)
    (rest : List UInt8) : utf8After none (b :: rest) = utf8After (some begun) rest := by
  -- No byte of ASCII begins such a character.
  have hfew : ∀ n < 128, Begun.ofByte? (UInt8.ofNat n) = none := by decide +kernel
  have hlow : ¬ b < 0x80 := by
    intro hlt
    have hnone := hfew b.toNat (UInt8.lt_iff_toNat_lt.1 hlt)
    rw [UInt8.ofNat_toNat, hbegun] at hnone
    cases hnone
  simp only [utf8After, stepUtf8, startUtf8, if_neg hlow, hbegun, List.nil_append]

variable {value missing m : Nat} {low high : UInt8}

/-- A further byte adds six bits to what is begun. -/
theorem stepUtf8_begun (hm : m < 64) (hlow : low.toNat ≤ m + 128) (hhigh : m + 128 ≤ high.toNat) :
    stepUtf8 (some ⟨value, missing, low, high⟩) (UInt8.ofNat (m + 128)) =
      if missing ≤ 1 then ([Char.ofNat (value * 64 + m)], none)
      else ([], some { value := value * 64 + m, missing := missing - 1 }) := by
  have hbyte : (UInt8.ofNat (m + 128)).toNat = m + 128 := by
    rw [UInt8.toNat_ofNat']
    omega
  have hwithin : (low ≤ UInt8.ofNat (m + 128) && UInt8.ofNat (m + 128) ≤ high) = true := by
    simp only [Bool.and_eq_true, decide_eq_true_eq, UInt8.le_iff_toNat_le, hbyte]
    exact ⟨hlow, hhigh⟩
  simp only [stepUtf8, hwithin, if_true, hbyte, Nat.add_sub_cancel]

/-- A further byte, with others behind it that are still missing. -/
theorem utf8After_further (hm : m < 64) (hlow : low.toNat ≤ m + 128) (hhigh : m + 128 ≤ high.toNat)
    (rest : List UInt8) :
    utf8After (some ⟨value, missing + 2, low, high⟩) (UInt8.ofNat (m + 128) :: rest) =
      utf8After (some { value := value * 64 + m, missing := missing + 1 }) rest := by
  have hmore : ¬ missing + 2 ≤ 1 := by omega
  simp only [utf8After, stepUtf8_begun hm hlow hhigh, if_neg hmore, List.nil_append]
  rfl

/-- The last byte of a character. -/
theorem utf8After_last (hm : m < 64) (hlow : low.toNat ≤ m + 128) (hhigh : m + 128 ≤ high.toNat)
    (rest : List UInt8) :
    utf8After (some ⟨value, 1, low, high⟩) (UInt8.ofNat (m + 128) :: rest) =
      Char.ofNat (value * 64 + m) :: utf8After none rest := by
  simp only [utf8After, stepUtf8_begun hm hlow hhigh, if_pos (Nat.le_refl 1), List.singleton_append]

/-- The bounds of every byte from the third one on. -/
theorem le_tail (m : Nat) : (0x80 : UInt8).toNat ≤ m + 128 :=
  Nat.le_add_left 128 m

theorem tail_le (hm : m < 64) : m + 128 ≤ (0xBF : UInt8).toNat :=
  Nat.add_le_add_right (Nat.le_of_lt_succ hm) 128

/-! ## Characters -/

variable {a k j : Nat}

/-- Two bytes make a character. -/
theorem utf8After_two (ha : a < 32) (hshort : 2 ≤ a) (hm : m < 64) (rest : List UInt8) :
    utf8After none (UInt8.ofNat (a + 192) :: UInt8.ofNat (m + 128) :: rest) =
      Char.ofNat (a * 64 + m) :: utf8After none rest := by
  rw [utf8After_first (ofByte?_two a ha hshort), utf8After_last hm (le_tail m) (tail_le hm)]

/-- Three bytes make a character, if it is not written longer than it has to be and is no half of a
pair. -/
theorem utf8After_three (ha : a < 16) (hm : m < 64) (hk : k < 64) (hshort : a = 0 → 32 ≤ m)
    (hwhole : a = 13 → m < 32) (rest : List UInt8) :
    utf8After none
        (UInt8.ofNat (a + 224) :: UInt8.ofNat (m + 128) :: UInt8.ofNat (k + 128) :: rest) =
      Char.ofNat ((a * 64 + m) * 64 + k) :: utf8After none rest := by
  have hlow : (if a = 0 then (0xA0 : UInt8) else 0x80).toNat ≤ m + 128 := by
    split_ifs with hzero
    · exact Nat.add_le_add_right (hshort hzero) 128
    · exact le_tail m
  have hhigh : m + 128 ≤ (if a = 13 then (0x9F : UInt8) else 0xBF).toNat := by
    split_ifs with hthirteen
    · exact Nat.add_le_add_right (Nat.le_of_lt_succ (hwhole hthirteen)) 128
    · exact tail_le hm
  rw [utf8After_first (ofByte?_three a ha), utf8After_further hm hlow hhigh,
    utf8After_last hk (le_tail k) (tail_le hk)]

/-- Four bytes make a character, if it is not written longer than it has to be and is within the range. -/
theorem utf8After_four (ha : a < 5) (hm : m < 64) (hk : k < 64) (hj : j < 64)
    (hshort : a = 0 → 16 ≤ m) (hrange : a = 4 → m < 16) (rest : List UInt8) :
    utf8After none
        (UInt8.ofNat (a + 240) :: UInt8.ofNat (m + 128) :: UInt8.ofNat (k + 128) ::
          UInt8.ofNat (j + 128) :: rest) =
      Char.ofNat (((a * 64 + m) * 64 + k) * 64 + j) :: utf8After none rest := by
  have hlow : (if a = 0 then (0x90 : UInt8) else 0x80).toNat ≤ m + 128 := by
    split_ifs with hzero
    · exact Nat.add_le_add_right (hshort hzero) 128
    · exact le_tail m
  have hhigh : m + 128 ≤ (if a = 4 then (0x8F : UInt8) else 0xBF).toNat := by
    split_ifs with hfour
    · exact Nat.add_le_add_right (Nat.le_of_lt_succ (hrange hfour)) 128
    · exact tail_le hm
  rw [utf8After_first (ofByte?_four a ha), utf8After_further hm hlow hhigh,
    utf8After_further hk (le_tail k) (tail_le hk), utf8After_last hj (le_tail j) (tail_le hj)]

/-- The bytes of a character are read as the character, whatever is behind them. -/
theorem utf8After_encodeChar (c : Char) (rest : List UInt8) :
    utf8After none (String.utf8EncodeChar c ++ rest) = c :: utf8After none rest := by
  obtain ⟨n, hn⟩ : ∃ n, c.val.toNat = n := ⟨_, rfl⟩
  have hvalid : n < 0xD800 ∨ 0xDFFF < n ∧ n < 0x110000 := hn ▸ c.valid
  have hread : ∀ k, k = n → Char.ofNat k = c := by
    rintro k rfl
    exact hn ▸ Char.ofNat_toNat c
  simp only [String.utf8EncodeChar, hn]
  split_ifs with hone htwo hthree
  · have hbyte : (UInt8.ofNat n).toNat = n := by
      rw [UInt8.toNat_ofNat']
      omega
    have hlow : UInt8.ofNat n < 0x80 := by
      rw [UInt8.lt_iff_toNat_lt, hbyte]
      exact Nat.lt_succ_of_le hone
    simp only [List.singleton_append, utf8After, stepUtf8, startUtf8, if_pos hlow, hbyte, hread n rfl]
  · refine (utf8After_two ?_ ?_ ?_ rest).trans (by rw [hread _ (by omega)]) <;> omega
  · refine (utf8After_three ?_ ?_ ?_ ?_ ?_ rest).trans (by rw [hread _ (by omega)]) <;> omega
  · refine (utf8After_four ?_ ?_ ?_ ?_ ?_ ?_ rest).trans (by rw [hread _ (by omega)]) <;> omega

/-! ## Rows of bytes -/

/-- The bytes of characters are read as these characters, whatever is behind them. -/
theorem utf8After_encode (cs : List Char) (rest : List UInt8) :
    utf8After none (cs.flatMap String.utf8EncodeChar ++ rest) = cs ++ utf8After none rest := by
  induction cs with
  | nil =>
      rfl
  | cons c more ih =>
      rw [List.flatMap_cons, List.append_assoc, utf8After_encodeChar, ih, List.cons_append]

/-- A byte that begins nothing leaves a replacement, and what is around it is read as it is. -/
theorem utf8After_stray {b : UInt8} (hhigh : 0x80 ≤ b) (hnone : Begun.ofByte? b = none) (cs : List Char)
    (rest : List UInt8) :
    utf8After none (cs.flatMap String.utf8EncodeChar ++ b :: rest) =
      cs ++ replacement :: utf8After none rest := by
  have hlow : ¬ b < 0x80 := by simpa using hhigh
  rw [utf8After_encode]
  simp only [utf8After, stepUtf8, startUtf8, if_neg hlow, hnone, List.singleton_append]

/-- A character that a byte does not go on with leaves a replacement, and the byte is read by itself. -/
theorem utf8After_cut {begun : Begun} {b : UInt8} (h : b < begun.low ∨ begun.high < b)
    (rest : List UInt8) :
    utf8After (some begun) (b :: rest) = replacement :: utf8After none (b :: rest) := by
  have hout : ¬ (begun.low ≤ b && b ≤ begun.high) = true := by
    simp only [Bool.and_eq_true, decide_eq_true_eq, UInt8.le_iff_toNat_le, UInt8.lt_iff_toNat_lt] at h ⊢
    omega
  simp only [utf8After, stepUtf8, if_neg hout, List.cons_append]

example : decodeUtf8 [0x61, 0xFF, 0xE2, 0x82, 0x62] = ['a', replacement, replacement, 'b'] := by decide

/-! ## Texts -/

/-- A row of bytes is a text as a whole if it is the bytes of the characters of one. -/
theorem fromUTF8?_eq_some_iff {bytes : List UInt8} {t : String} :
    String.fromUTF8? (ByteArray.mk bytes.toArray) = some t ↔
      bytes = t.toList.flatMap String.utf8EncodeChar := by
  have hlist : bytes.toByteArray = ByteArray.mk bytes.toArray := by
    rw [← List.data_toByteArray]
  have hbytes : t.toByteArray = bytes.toByteArray ↔ bytes = t.toList.flatMap String.utf8EncodeChar := by
    rw [← String.utf8Encode_toList, eq_comm]
    exact List.toByteArray_inj
  rw [← hbytes, hlist, String.fromUTF8?]
  by_cases hvalid : (ByteArray.mk bytes.toArray).IsValidUTF8
  · rw [dif_pos hvalid, Option.some.injEq, ← String.toByteArray_inj, eq_comm]
    rfl
  · rw [dif_neg hvalid]
    refine ⟨nofun, fun h => absurd ?_ hvalid⟩
    exact h ▸ t.isValidUTF8

/-- The two readers agree: a row of bytes is a text exactly if it is what the characters that are read off
it one by one are written as, and they are those of the text. -/
theorem ofUtf8?_eq_some_iff {bytes : List UInt8} {s : String} :
    ofUtf8? bytes = some s ↔
      (utf8After none bytes).flatMap String.utf8EncodeChar = bytes ∧ decodeUtf8 bytes = s.toList := by
  rw [ofUtf8?, Option.map_eq_some_iff]
  constructor
  · rintro ⟨t, ht, rfl⟩
    have hread : utf8After none bytes = t.toList := by
      have hall := utf8After_encode t.toList []
      rwa [List.append_nil, ← fromUTF8?_eq_some_iff.1 ht, utf8After, List.append_nil] at hall
    refine ⟨?_, ?_⟩
    · rw [hread, ← fromUTF8?_eq_some_iff.1 ht]
    · rw [decodeUtf8, hread, ofPlain, String.toList_ofList]
  · rintro ⟨hwritten, hread⟩
    refine ⟨String.ofList (utf8After none bytes), fromUTF8?_eq_some_iff.2 ?_, ?_⟩
    · rw [String.toList_ofList, hwritten]
    · rw [ofPlain, String.toList_ofList, ← decodeUtf8, hread, String.ofList_toList]

end Text
end ApiView
