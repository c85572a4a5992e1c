import ApiView.Proofs.Json.Numbers
import ApiView.Proofs.Members
import ApiView.Proofs.Scalars

/-!
# Leaves — what JSON texts can bring in

Documents can hold bytes, points in time and integers of any length.  A JSON text cannot bring in any of
these: it has no words for the first two, and an integer with too many digits is refused.

* `Scalar.isReadable`: a leaf that a JSON text can bring in;
* `digitsValue_lt`: the digits that the reader takes stay below the bound of long integers;
* `ReadsReadable`: the reader keeps to such leaves with some fuel, and so with one more;
* `readable_of_read`: all that is read from a text is such a leaf.
-/

namespace ApiView

/-- A leaf that a JSON text can bring in: no point in time, no bytes, and no integer with too many
digits. -/
def Scalar.isReadable : Scalar → Bool
  | .date _ | .dateTime _ | .bytes _ => false
  | s => !s.isLong

/-- All leaves and keys are such as a JSON text can bring in. -/
def Value.Readable (v : Value) : Prop :=
  ∀ s ∈ v.scalars, s.isReadable = true

namespace Value

theorem readable_scalar {s : Scalar} : (Value.scalar s).Readable ↔ s.isReadable = true := by
  simp [Readable, scalars]

/-- A list is readable if its items are. -/
theorem readable_list_iff {items : List Value} :
    (Value.list items).Readable ↔ ∀ v ∈ items, v.Readable :=
  forall_scalars_list

/-- A mapping is readable if its keys and values are. -/
theorem readable_map_iff {entries : Entries} :
    (Value.map entries).Readable ↔
      ∀ entry ∈ entries, entry.1.isReadable = true ∧ entry.2.Readable :=
  forall_scalars_map

/-- A readable value has no long integer, so it can be displayed. -/
theorem Readable.hasLong {v : Value} (h : v.Readable) : v.hasLong = false := by
  rw [hasLong_eq, List.any_eq_false]
  intro s hs
  have hreadable := h s hs
  cases s with
  | int i =>
      simpa [Scalar.isReadable] using hreadable
  | _ =>
      simp [Scalar.isLong]

end Value

namespace Json

/-! ## Numbers -/

/-- A row of digits is less than the power of ten with as many zeros. -/
theorem digitsValue_lt {digits : List Char} (h : ∀ c ∈ digits, isDigit c = true) :
    digitsValue digits < Nat.pow 10 digits.length := by
  -- The digits so far stay below the power of ten for their number, and each one adds a power.
  have hfold : ∀ (digits : List Char) (n k : Nat), (∀ c ∈ digits, isDigit c = true) →
      n < Nat.pow 10 k →
        digits.foldl (fun n c => n * 10 + (c.toNat - 48)) n < Nat.pow 10 (k + digits.length) := by
    intro digits
    induction digits with
    | nil =>
        exact fun n k _ hn => hn
    | cons c rest ih =>
        intro n k hdigits hn
        obtain ⟨hc, hrest⟩ := List.forall_mem_cons.1 hdigits
        have hdigit : c.toNat - 48 < 10 := by
          rw [isDigit, Bool.and_eq_true, decide_eq_true_eq, decide_eq_true_eq] at hc
          have hnine : c.toNat ≤ 57 := hc.2
          omega
        have hstep : n * 10 + (c.toNat - 48) < Nat.pow 10 (k + 1) := by
          have hpower : Nat.pow 10 (k + 1) = Nat.pow 10 k * 10 := rfl
          omega
        have hlength : k + (c :: rest).length = k + 1 + rest.length := by
          rw [List.length_cons]
          omega
        rw [hlength]
        exact ih _ _ hrest hstep
  have hvalue := hfold digits 0 0 h (by decide)
  rwa [Nat.zero_add] at hvalue

theorem isDigit_of_readWhole {cs whole rest : List Char} :
    readWhole cs = some (whole, rest) → ∀ c ∈ whole, isDigit c = true := by
  intro h
  unfold readWhole at h
  split at h
  · cases h
    intro c hc
    rw [List.mem_singleton.1 hc]
    rfl
  · split at h
    · rename_i c rest' _ _
      rw [List.span_eq_takeWhile_dropWhile] at h
      cases h
      exact fun d hd => List.all_eq_true.1 List.all_takeWhile d hd
    · cases h
  · cases h

/-- Digits that the reader takes are no long integer, with either sign. -/
theorem readable_of_digits {digits : List Char} (h : ∀ c ∈ digits, isDigit c = true)
    (hlength : digits.length ≤ maxDigits) {i : Int} (hi : i.natAbs = digitsValue digits) :
    (Value.int i).Readable := by
  have hvalue : digitsValue digits < longBound := by
    have hlt := digitsValue_lt h
    rw [maxDigits] at hlength
    unfold longBound
    -- The exponent gets a name, so that the power is not evaluated.
    generalize hk : 4300 = k at hlength ⊢
    exact Nat.lt_of_lt_of_le hlt (Nat.pow_le_pow_right (by decide) hlength)
  refine Value.readable_scalar.2 ?_
  have hshort : (Scalar.int i).isLong = false := by
    rw [Scalar.isLong, hi, decide_eq_false_iff_not]
    exact Nat.not_le.2 hvalue
  simp [Scalar.isReadable, hshort]

/-- A number that is read is readable. -/
theorem readable_of_readNumber {cs left : List Char} {v : Value} :
    readNumber cs = some (.ok (v, left)) → v.Readable := by
  intro h
  unfold readNumber at h
  split at h
  rename_i negative body _
  split at h
  · cases h
  · rename_i whole afterWhole hwhole
    dsimp only at h
    split at h
    · split at h
      · cases h
      · rename_i hlength
        cases h
        refine readable_of_digits (isDigit_of_readWhole hwhole) (Nat.not_lt.1 hlength) ?_
        cases negative <;> simp
    · cases h
      exact Value.readable_scalar.2 rfl

/-- A word or number that is read is readable. -/
theorem readable_of_readPlain {cs left : List Char} {v : Value} :
    readPlain cs = .ok (v, left) → v.Readable := by
  intro h
  unfold readPlain at h
  split at h
  · rename_i s rest hword
    cases h
    obtain ⟨⟨word, s'⟩, hmem, hdrop⟩ := List.exists_of_findSome?_eq_some hword
    obtain ⟨rest', -, hpair⟩ := Option.map_eq_some_iff.1 hdrop
    cases hpair
    have hwords : ∀ entry ∈ words, entry.2.isReadable = true := by decide
    exact Value.readable_scalar.2 (hwords _ hmem)
  · cases hnumber : readNumber cs with
    | none =>
        rw [hnumber] at h
        cases h
    | some result =>
        rw [hnumber] at h
        exact readable_of_readNumber (hnumber.trans (congrArg some h))

/-! ## Containers -/

/-- A mapping that is read from readable members is readable. -/
theorem readable_ofPairs {members : Entries}
    (h : ∀ entry ∈ members, (∃ name, entry.1 = .str name) ∧ entry.2.Readable) :
    (Value.map (Entries.ofPairs members)).Readable := by
  have htexts : Entries.HasTextKeys members := by
    intro key hkey
    obtain ⟨entry, hentry, rfl⟩ := List.mem_map.1 hkey
    exact (h entry hentry).1
  refine Value.readable_map_iff.2 fun entry hentry => ?_
  obtain ⟨⟨name, hname⟩, hv⟩ := h entry (Entries.mem_ofPairs htexts hentry)
  exact ⟨by rw [hname]; rfl, hv⟩

/-- With some fuel, everything that is read is readable. -/
structure ReadsReadable (fuel : Nat) : Prop where
  value : ∀ {cs v left}, readValue fuel cs = .ok (v, left) → v.Readable
  items : ∀ {cs items left}, readItems fuel cs = .ok (items, left) → ∀ v ∈ items, v.Readable
  members : ∀ {cs members left}, readMembers fuel cs = .ok (members, left) →
    ∀ entry ∈ members, (∃ name, entry.1 = .str name) ∧ entry.2.Readable

section Step

variable {fuel : Nat}

/-- A value is readable if its parts are. -/
theorem readable_of_readValue (h : ReadsReadable fuel) {cs left : List Char} {v : Value} :
    readValue (fuel + 1) cs = .ok (v, left) → v.Readable := by
  intro hread
  -- The fuel gets a name, so that the first case of the reader, without fuel, is one of them.
  generalize hfuel : fuel + 1 = n at hread
  unfold readValue at hread
  split at hread
  · cases hfuel
  · obtain ⟨⟨s, left'⟩, -, hs⟩ := bind_eq_ok_iff.1 hread
    cases hs
    exact Value.readable_scalar.2 rfl
  · cases hfuel
    split at hread
    · cases hread
      exact Value.readable_list_iff.2 fun v hv => nomatch hv
    · obtain ⟨⟨items, left'⟩, hitems, hlist⟩ := bind_eq_ok_iff.1 hread
      cases hlist
      exact Value.readable_list_iff.2 (h.items hitems)
  · cases hfuel
    split at hread
    · cases hread
      exact Value.readable_map_iff.2 fun entry hentry => nomatch hentry
    · obtain ⟨⟨members, left'⟩, hmembers, hmap⟩ := bind_eq_ok_iff.1 hread
      cases hmap
      exact readable_ofPairs (h.members hmembers)
  · exact readable_of_readPlain hread

theorem readable_of_readItems (h : ReadsReadable fuel) {cs left : List Char} {items : List Value} :
    readItems (fuel + 1) cs = .ok (items, left) → ∀ v ∈ items, v.Readable := by
  intro hread
  rw [readItems, bind_eq_ok_iff] at hread
  obtain ⟨⟨first, behind⟩, hfirst, hread⟩ := hread
  have hreadable := h.value hfirst
  dsimp only at hread
  split at hread
  · cases hread
    exact List.forall_mem_singleton.2 hreadable
  · obtain ⟨⟨rest, left'⟩, hrest, hitems⟩ := bind_eq_ok_iff.1 hread
    cases hitems
    exact List.forall_mem_cons.2 ⟨hreadable, h.items hrest⟩
  · cases hread

theorem readable_of_readMembers (h : ReadsReadable fuel) {cs left : List Char} {members : Entries} :
    readMembers (fuel + 1) cs = .ok (members, left) →
      ∀ entry ∈ members, (∃ name, entry.1 = .str name) ∧ entry.2.Readable := by
  intro hread
  generalize hfuel : fuel + 1 = n at hread
  unfold readMembers at hread
  split at hread
  · cases hfuel
  · cases hfuel
    obtain ⟨⟨name, behind⟩, -, hread⟩ := bind_eq_ok_iff.1 hread
    dsimp only at hread
    split at hread
    · obtain ⟨⟨first, behind'⟩, hfirst, hread⟩ := bind_eq_ok_iff.1 hread
      -- The reader makes names of strings only.
      have hentry : (∃ text, Scalar.str name = .str text) ∧ first.Readable :=
        ⟨⟨name, rfl⟩, h.value hfirst⟩
      dsimp only at hread
      split at hread
      · cases hread
        exact List.forall_mem_singleton.2 hentry
      · obtain ⟨⟨rest, left'⟩, hrest, hmembers⟩ := bind_eq_ok_iff.1 hread
        cases hmembers
        exact List.forall_mem_cons.2 ⟨hentry, h.members hrest⟩
      · cases hread
    · cases hread
  · cases hread

/-- The reader keeps to readable leaves, whatever its fuel is. -/
theorem readsReadable (fuel : Nat) : ReadsReadable fuel := by
  induction fuel with
  | zero =>
      refine ⟨fun h => ?_, fun h => ?_, fun h => ?_⟩
      · cases h
      · cases h
      · cases h
  | succ fuel ih =>
      exact ⟨readable_of_readValue ih, readable_of_readItems ih, readable_of_readMembers ih⟩

end Step

/-- A text brings in readable leaves only. -/
theorem readable_of_read {cs : List Char} {v : Value} : read cs = .ok v → v.Readable := by
  intro h
  unfold read at h
  split at h
  · cases h
  · obtain ⟨⟨w, left⟩, hvalue, h⟩ := bind_eq_ok_iff.1 h
    have hreadable := (readsReadable _).value hvalue
    dsimp only at h
    split at h
    · cases h
      exact hreadable
    · cases h

end Json
end ApiView
