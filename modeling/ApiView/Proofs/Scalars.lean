import ApiView.Value.Display

/-!
# Scalars — the leaves of a value and the keys of its mappings

What holds of all the scalars in a value is stated of a flat list of them:

* `Value.scalars`: the leaves of a value, the members of its sets and the keys of its mappings, at every
  depth;
* `forall_scalars_list`, `forall_scalars_map`: what holds of all of them, by the parts of a container;
* `Value.hasLong_eq`: a long integer in a value is one of its scalars.
-/

namespace ApiView

mutual

/-- The leaves of a value, the members of its sets and the keys of its mappings. -/
def Value.scalars : Value → List Scalar
  | .scalar s => [s]
  | .list items => scalarsOfItems items
  | .map entries => scalarsOfMembers entries
  | .pair k v => k.scalars ++ v.scalars
  | .set members => members
  | .again _ _ => []

/-- The leaves and keys of the items of a list. -/
def scalarsOfItems : List Value → List Scalar
  | [] => []
  | v :: rest => v.scalars ++ scalarsOfItems rest

/-- The keys of a mapping, and the leaves and keys under them. -/
def scalarsOfMembers : List (Scalar × Value) → List Scalar
  | [] => []
  | (key, v) :: rest => key :: (v.scalars ++ scalarsOfMembers rest)

end

theorem mem_scalarsOfItems {s : Scalar} {items : List Value} :
    s ∈ scalarsOfItems items ↔ ∃ v ∈ items, s ∈ v.scalars := by
  induction items with
  | nil =>
      simp [scalarsOfItems]
  | cons v rest ih =>
      simp [scalarsOfItems, ih]

theorem mem_scalarsOfMembers {s : Scalar} {entries : Entries} :
    s ∈ scalarsOfMembers entries ↔ ∃ entry ∈ entries, s = entry.1 ∨ s ∈ entry.2.scalars := by
  induction entries with
  | nil =>
      simp [scalarsOfMembers]
  | cons entry rest ih =>
      rcases entry with ⟨key, v⟩
      simp [scalarsOfMembers, ih, or_assoc]

section All

variable {P : Scalar → Prop}

theorem forall_scalars_list {items : List Value} :
    (∀ s ∈ (Value.list items).scalars, P s) ↔ ∀ v ∈ items, ∀ s ∈ v.scalars, P s := by
  simp only [Value.scalars, mem_scalarsOfItems]
  constructor
  · intro h v hv s hs
    exact h s ⟨v, hv, hs⟩
  · rintro h s ⟨v, hv, hs⟩
    exact h v hv s hs

theorem forall_scalars_map {entries : Entries} :
    (∀ s ∈ (Value.map entries).scalars, P s) ↔
      ∀ entry ∈ entries, P entry.1 ∧ ∀ s ∈ entry.2.scalars, P s := by
  simp only [Value.scalars, mem_scalarsOfMembers]
  constructor
  · intro h entry hentry
    exact ⟨h entry.1 ⟨entry, hentry, .inl rfl⟩, fun s hs => h s ⟨entry, hentry, .inr hs⟩⟩
  · rintro h s ⟨entry, hentry, rfl | hs⟩
    · exact (h entry hentry).1
    · exact (h entry hentry).2 s hs

end All

/-! ## Long integers -/

mutual

/-- A value has an integer with too many digits iff one of its scalars is such an integer. -/
theorem Value.hasLong_eq : (v : Value) → v.hasLong = v.scalars.any Scalar.isLong
  | .scalar s => by
      rw [Value.hasLong, Value.scalars, List.any_cons, List.any_nil, Bool.or_false]
  | .list items => itemsHaveLong_eq items
  | .map entries => membersHaveLong_eq entries
  | .pair k v => by
      rw [Value.hasLong, Value.scalars, List.any_append, k.hasLong_eq, v.hasLong_eq]
  | .set _ => rfl
  | .again _ _ => rfl

theorem itemsHaveLong_eq :
    (items : List Value) → itemsHaveLong items = (scalarsOfItems items).any Scalar.isLong
  | [] => rfl
  | v :: rest => by
      rw [itemsHaveLong, scalarsOfItems, List.any_append, v.hasLong_eq, itemsHaveLong_eq rest]

theorem membersHaveLong_eq :
    (entries : List (Scalar × Value)) →
      membersHaveLong entries = (scalarsOfMembers entries).any Scalar.isLong
  | [] => rfl
  | (key, v) :: rest => by
      rw [membersHaveLong, scalarsOfMembers, List.any_cons, List.any_append, v.hasLong_eq,
        membersHaveLong_eq rest, Bool.or_assoc]

end

end ApiView
