import ApiView.Proofs.Outcomes
import ApiView.Value.Access

/-!
# Members — looking up members of a mapping

Keys are compared as document values, where `1`, `1.0` and `true` agree.  Texts and byte strings agree
only with themselves, so looking up a name is looking up that very key:

* `Scalar.same_str_iff`: the key that agrees with a text;
* `Scalar.Spells`, `Scalar.eq_of_spells`: the text that a key is given as;
* `Entries.exists_mem_of_find?`, `Entries.hasMember_of_member_ne`: a member that is found is there;
* `Entries.member?_append`, `Entries.member?_put_self`: where a name is looked up;
* `Entries.Named`, `Entries.member?_of_mem`, `Entries.ofPairs_of_named`: members with different names;
* `Entries.named_overlay`, `Entries.mem_overlay`, `Entries.member?_overlay`: members put over others;
* `Value.entries?_eq_some_iff`, `Value.iterate_eq_ok`: what has members, and what a value is iterated
  as;
* `Value.items?_of_not_truthy`, `Value.entries?_of_not_truthy`: what counts as absent is empty.
-/

namespace ApiView

namespace Scalar

/-! ## Keys -/

@[simp]
theorem same_str_iff (key : Scalar) (s : String) : key.same (.str s) = true ↔ key = .str s := by
  cases key with
  | float x =>
      cases h : x.toInt? <;> simp [same, asInt?, h]
  | _ =>
      simp [same, asInt?]

/-- The text that a key is given as: itself, or the text of its bytes. -/
def Spells (key : Scalar) (text : String) : Prop :=
  key = .str text ∨ ∃ bytes, key = .bytes bytes ∧ Text.ofUtf8? bytes = some text

/-- A key spells the text that it gives to a field. -/
theorem spells_of_fieldText? {key : Scalar} {text : String} :
    (Value.scalar key).fieldText? = some text → key.Spells text := by
  intro h
  cases key with
  | str s =>
      left
      by_cases hwhole : Text.isWhole s = true
      · simpa [Value.fieldText?, Value.fieldText, hwhole, Except.toOption] using h
      · simp [Value.fieldText?, Value.fieldText, hwhole, Except.toOption] at h
  | bytes b =>
      right
      refine ⟨b, rfl, ?_⟩
      cases hb : Text.ofUtf8? b with
      | none =>
          simp [Value.fieldText?, Value.fieldText, hb, Except.toOption] at h
      | some s =>
          simpa [Value.fieldText?, Value.fieldText, hb, Except.toOption] using h
  | _ =>
      simp [Value.fieldText?, Value.fieldText, Except.toOption] at h

/-- A key is given as one text only. -/
theorem eq_of_spells {key : Scalar} {text text' : String} :
    key.Spells text → key.Spells text' → text = text' := by
  rintro (rfl | ⟨bytes, rfl, htext⟩) (heq | ⟨bytes', heq, htext'⟩)
  · cases heq
    rfl
  · cases heq
  · cases heq
  · cases heq
    exact Option.some.inj (htext.symm.trans htext')

/-- A key that agrees with one that spells a text is that key. -/
theorem eq_of_same_of_spells {key name : Scalar} {text : String} :
    key.same name = true → key.Spells text → name = key := by
  intro hsame hspells
  rcases hspells with rfl | ⟨b, rfl, _⟩
  all_goals
    cases name with
    | float x =>
        cases h : x.toInt? <;> simp [same, asInt?, h] at hsame
    | _ =>
        simp_all [same, asInt?]

end Scalar

/-! ## Look-up -/

/-- What is found under a key is a member whose key counts as the same. -/
theorem Entries.exists_mem_of_find? {key : Scalar} {entries : Entries} {v : Value} :
    Entries.find? key entries = some v → ∃ k, (k, v) ∈ entries ∧ k.same key = true := by
  intro h
  induction entries with
  | nil =>
      cases h
  | cons entry rest ih =>
      rcases entry with ⟨k, w⟩
      by_cases hsame : k.same key = true
      · simp only [Entries.find?, hsame, if_true, Option.some.injEq] at h
        subst h
        exact ⟨k, List.mem_cons_self .., hsame⟩
      · simp only [Entries.find?, hsame] at h
        rcases ih h with ⟨k', hmem, hk'⟩
        exact ⟨k', List.mem_cons_of_mem _ hmem, hk'⟩

@[simp]
theorem Entries.member?_cons_self (name : String) (v : Value) (rest : Entries) :
    Entries.member? ((.str name, v) :: rest) name = some v := by
  simp [Entries.member?, Entries.find?]

theorem Entries.member?_cons_of_ne {key : Scalar} {name : String} (hkey : key ≠ .str name) (v : Value)
    (rest : Entries) : Entries.member? ((key, v) :: rest) name = Entries.member? rest name := by
  simp [Entries.member?, Entries.find?, hkey]

/-- Names are looked up in the first of two rows of members, and then in the second. -/
theorem Entries.member?_append (xs ys : Entries) (name : String) :
    Entries.member? (xs ++ ys) name = (Entries.member? xs name).or (Entries.member? ys name) := by
  induction xs with
  | nil =>
      rfl
  | cons entry rest ih =>
      rcases entry with ⟨key, v⟩
      by_cases hkey : key = .str name
      · subst hkey
        simp
      · rw [List.cons_append, member?_cons_of_ne hkey, member?_cons_of_ne hkey, ih]

/-- Under a name whose key is kept, the same is found when other members are dropped. -/
theorem Entries.member?_filter (keep : Scalar → Bool) {name : String} (hkeep : keep (.str name) = true)
    (entries : Entries) :
    Entries.member? (entries.filter fun entry => keep entry.1) name = entries.member? name := by
  induction entries with
  | nil =>
      rfl
  | cons entry rest ih =>
      rcases entry with ⟨key, v⟩
      by_cases hkey : key = .str name
      · subst hkey
        rw [List.filter_cons, if_pos hkeep, member?_cons_self, member?_cons_self]
      · rw [member?_cons_of_ne hkey, ← ih, List.filter_cons]
        split
        · rw [member?_cons_of_ne hkey]
        · rfl

/-- A value that is put under a name is found there. -/
theorem Entries.member?_put_self (name : String) (v : Value) (entries : Entries) :
    Entries.member? (Entries.put (.str name) v entries) name = some v := by
  induction entries with
  | nil =>
      simp [Entries.put]
  | cons entry rest ih =>
      rcases entry with ⟨key, w⟩
      by_cases hkey : key = .str name
      · subst hkey
        simp [Entries.put]
      · simp only [Entries.put, Scalar.same_str_iff, hkey, if_false]
        rw [member?_cons_of_ne hkey, ih]

theorem Entries.member_of_member?_eq_none {entries : Entries} {name : String} :
    entries.member? name = none → entries.member name = .null := by
  intro h
  rw [Entries.member, h]
  rfl

/-- A member that is not null is there. -/
theorem Entries.hasMember_of_member_ne {entries : Entries} {name : String} :
    entries.member name ≠ .null → entries.hasMember name = true := by
  intro h
  unfold Entries.hasMember
  cases hfind : entries.member? name with
  | none =>
      exact absurd (Entries.member_of_member?_eq_none hfind) h
  | some v =>
      rfl

/-! ## Different names -/

namespace Entries

/-- All keys are texts, and no two are the same. -/
structure Named (entries : Entries) : Prop where
  texts : ∀ key ∈ entries.keys, ∃ name, key = .str name
  different : entries.keys.Nodup

/-- A new name is put at the end. -/
theorem put_of_new {name : String} {v : Value} {entries : Entries} :
    Scalar.str name ∉ entries.keys → put (.str name) v entries = entries ++ [(.str name, v)] := by
  intro h
  induction entries with
  | nil =>
      rfl
  | cons entry rest ih =>
      rw [keys, List.map_cons, List.mem_cons, not_or] at h
      have hne : ¬ entry.1.same (.str name) = true := by
        rw [Scalar.same_str_iff]
        exact fun heq => h.1 heq.symm
      rw [put, if_neg hne, ih h.2, List.cons_append]

/-- A member of a mapping with different names is found under its name. -/
theorem member?_of_mem {name : String} {v : Value} {entries : Entries} :
    Named entries → (Scalar.str name, v) ∈ entries → entries.member? name = some v := by
  intro hnamed hmem
  induction entries with
  | nil =>
      cases hmem
  | cons entry rest ih =>
      have hdifferent := List.nodup_cons.1 hnamed.different
      have hrest : Named rest :=
        ⟨fun key hkey => hnamed.texts key (List.mem_cons_of_mem _ hkey), hdifferent.2⟩
      rcases List.mem_cons.1 hmem with rfl | hmem
      · exact member?_cons_self name v rest
      · have hne : entry.1 ≠ .str name := by
          intro heq
          exact hdifferent.1 (List.mem_map.2 ⟨_, hmem, heq.symm⟩)
        rw [member?_cons_of_ne hne, ih hrest hmem]

/-- What is found under a name is a member of that name. -/
theorem mem_of_member? {name : String} {v : Value} {entries : Entries} :
    entries.member? name = some v → (Scalar.str name, v) ∈ entries := by
  intro h
  obtain ⟨key, hmem, hsame⟩ := Entries.exists_mem_of_find? h
  rwa [(Scalar.same_str_iff key name).1 hsame] at hmem

/-- Where names are distinct, looking one up finds its only member. -/
theorem member?_eq_some_iff {name : String} {v : Value} {entries : Entries} (hnamed : Named entries) :
    entries.member? name = some v ↔ (Scalar.str name, v) ∈ entries :=
  ⟨mem_of_member?, member?_of_mem hnamed⟩

theorem Named.filter {entries : Entries} (h : Named entries) (keep : Scalar × Value → Bool) :
    Named (entries.filter keep) := by
  have hkeys : (keys (entries.filter keep)).Sublist entries.keys := List.filter_sublist.map _
  exact ⟨fun key hkey => h.texts key (hkeys.subset hkey), h.different.sublist hkeys⟩

/-- Members with different names are put one behind the other. -/
theorem foldl_put_of_named {before entries : Entries} :
    Named (before ++ entries) →
      entries.foldl (fun done (k, v) => put k v done) before = before ++ entries := by
  intro h
  induction entries generalizing before with
  | nil =>
      rw [List.append_nil]
      rfl
  | cons entry rest ih =>
      rcases entry with ⟨key, v⟩
      obtain ⟨name, rfl⟩ := h.texts key (by simp [keys])
      have hnew : Scalar.str name ∉ keys before := by
        have hdifferent := h.different
        rw [keys, List.map_append, List.map_cons] at hdifferent
        intro hmem
        exact (List.nodup_append.1 hdifferent).2.2 _ hmem _ List.mem_cons_self rfl
      -- A new member goes to the end, so the first of the rest becomes the last of what is done.
      have hput := put_of_new (v := v) hnew
      have hstep : before ++ (.str name, v) :: rest = before ++ [(.str name, v)] ++ rest := by
        rw [List.append_assoc, List.singleton_append]
      rw [hstep] at h ⊢
      simp only [List.foldl_cons, hput]
      exact ih h

theorem ofPairs_of_named {entries : Entries} : Named entries → ofPairs entries = entries := by
  intro h
  have hput := @foldl_put_of_named [] entries h
  exact hput

/-! ## Members that are put -/

/-- All keys are texts. -/
def HasTextKeys (entries : Entries) : Prop :=
  ∀ key ∈ entries.keys, ∃ name, key = .str name

theorem HasTextKeys.cons {key : Scalar} {v : Value} {rest : Entries} :
    HasTextKeys ((key, v) :: rest) → (∃ name, key = .str name) ∧ HasTextKeys rest := by
  intro h
  exact ⟨h key List.mem_cons_self, fun other hmem => h other (List.mem_cons_of_mem key hmem)⟩

/-- A name is among the keys of a mapping iff something is found under it. -/
theorem mem_keys_iff (name : String) (entries : Entries) :
    Scalar.str name ∈ entries.keys ↔ (entries.member? name).isSome = true := by
  induction entries with
  | nil =>
      simp [keys, member?, find?]
  | cons entry rest ih =>
      rcases entry with ⟨key, v⟩
      by_cases hkey : key = .str name
      · subst hkey
        simp [keys]
      · rw [member?_cons_of_ne hkey, ← ih]
        have hne : ¬ Scalar.str name = key := fun heq => hkey heq.symm
        simp [keys, hne]

/-- Nothing is found under a name exactly if it is no key. -/
theorem member?_eq_none_iff {name : String} {entries : Entries} :
    entries.member? name = none ↔ Scalar.str name ∉ entries.keys := by
  rw [mem_keys_iff, Option.not_isSome_iff_eq_none]

/-- Nothing is found under a name that is none of those that keys may have. -/
theorem member?_of_names {names : List String} {entries : Entries}
    (hnames : ∀ key ∈ entries.keys, ∃ name ∈ names, key = .str name) {name : String}
    (hname : name ∉ names) : entries.member? name = none := by
  refine member?_eq_none_iff.2 fun hmem => hname ?_
  obtain ⟨other, hother, hkey⟩ := hnames _ hmem
  rwa [Scalar.str.inj hkey]

/-- Putting a value under a name that is there changes no keys. -/
theorem keys_put_of_mem {name : String} {v : Value} {entries : Entries} :
    Scalar.str name ∈ entries.keys → (put (.str name) v entries).keys = entries.keys := by
  intro h
  induction entries with
  | nil =>
      cases h
  | cons entry rest ih =>
      rcases entry with ⟨key, w⟩
      by_cases hkey : key = .str name
      · subst hkey
        simp [put, keys]
      · have hrest : Scalar.str name ∈ keys rest :=
          (List.mem_cons.1 h).resolve_left fun heq => hkey heq.symm
        rw [put, if_neg (by simpa using hkey)]
        exact congrArg (key :: ·) (ih hrest)

/-- A member that is put under a name is the only one that is not there before. -/
theorem mem_put {name : String} {v : Value} {entries : Entries} {entry : Scalar × Value} :
    entry ∈ put (.str name) v entries → entry = (.str name, v) ∨ entry ∈ entries := by
  intro h
  induction entries with
  | nil =>
      exact .inl (List.mem_singleton.1 h)
  | cons first rest ih =>
      rcases first with ⟨key, w⟩
      rw [put] at h
      split at h
      · rename_i hsame
        rw [(Scalar.same_str_iff key name).1 hsame] at h
        exact (List.mem_cons.1 h).imp_right (List.mem_cons_of_mem _)
      · rcases List.mem_cons.1 h with rfl | hrest
        · exact .inr List.mem_cons_self
        · exact (ih hrest).imp_right (List.mem_cons_of_mem _)

/-- Putting a value under a name keeps the names distinct. -/
theorem named_put {name : String} {v : Value} {entries : Entries} :
    Named entries → Named (put (.str name) v entries) := by
  intro h
  by_cases hmem : Scalar.str name ∈ entries.keys
  · have hkeys := keys_put_of_mem (v := v) hmem
    exact ⟨by rw [hkeys]; exact h.texts, by rw [hkeys]; exact h.different⟩
  · have hkeys : (put (.str name) v entries).keys = entries.keys ++ [.str name] := by
      rw [put_of_new hmem, keys, List.map_append]
      rfl
    refine ⟨?_, ?_⟩
    · rw [hkeys]
      intro key hkey
      rcases List.mem_append.1 hkey with hold | hnew
      · exact h.texts key hold
      · exact ⟨name, List.mem_singleton.1 hnew⟩
    · rw [hkeys]
      refine List.nodup_append.2 ⟨h.different, by simp, ?_⟩
      intro key hkey other hother
      rw [List.mem_singleton.1 hother]
      rintro rfl
      exact hmem hkey

/-- Putting a value under a name changes nothing under the others. -/
theorem member?_put_of_ne {name other : String} (hne : name ≠ other) (v : Value)
    (entries : Entries) : (put (.str name) v entries).member? other = entries.member? other := by
  have hkey : Scalar.str name ≠ .str other := by simpa using hne
  induction entries with
  | nil =>
      exact member?_cons_of_ne hkey v []
  | cons entry rest ih =>
      rcases entry with ⟨key, w⟩
      rw [put]
      split
      · rename_i hsame
        rw [(Scalar.same_str_iff key name).1 hsame, member?_cons_of_ne hkey, member?_cons_of_ne hkey]
      · by_cases hother : key = .str other
        · subst hother
          rw [member?_cons_self, member?_cons_self]
        · rw [member?_cons_of_ne hother, member?_cons_of_ne hother, ih]

/-- Members with different names, whatever is put over them. -/
theorem named_overlay {base updates : Entries} :
    Named base → HasTextKeys updates → Named (overlay base updates) := by
  intro hbase htexts
  induction updates generalizing base with
  | nil =>
      exact hbase
  | cons update rest ih =>
      rcases update with ⟨key, v⟩
      obtain ⟨⟨name, rfl⟩, hrest⟩ := htexts.cons
      exact ih (named_put hbase) hrest

/-- Whatever is in a mapping was there before or is put over it. -/
theorem mem_overlay {base updates : Entries} {entry : Scalar × Value} (htexts : HasTextKeys updates) :
    entry ∈ overlay base updates → entry ∈ base ∨ entry ∈ updates := by
  intro h
  induction updates generalizing base with
  | nil =>
      exact .inl h
  | cons update rest ih =>
      rcases update with ⟨key, v⟩
      obtain ⟨⟨name, rfl⟩, hrest⟩ := htexts.cons
      rcases ih hrest h with hput | hmem
      · rcases mem_put hput with rfl | hbase
        · exact .inr List.mem_cons_self
        · exact .inl hbase
      · exact .inr (List.mem_cons_of_mem _ hmem)

/-- The mapping that pairs with text keys describe has different names, and no members but theirs. -/
theorem named_ofPairs {pairs : Entries} (htexts : HasTextKeys pairs) : Named (ofPairs pairs) :=
  named_overlay ⟨fun _ hkey => (nomatch hkey), List.nodup_nil⟩ htexts

/-- What is put together out of pairs has no other members than these. -/
theorem mem_ofPairs {pairs : Entries} {entry : Scalar × Value} (htexts : HasTextKeys pairs) :
    entry ∈ ofPairs pairs → entry ∈ pairs := by
  intro h
  rcases mem_overlay htexts h with hnone | hmem
  · cases hnone
  · exact hmem

/-- Under a name, what is put over a mapping comes before what was there. -/
theorem member?_overlay {base updates : Entries} (hnamed : Named updates) (name : String) :
    (overlay base updates).member? name = (updates.member? name).or (base.member? name) := by
  induction updates generalizing base with
  | nil =>
      rfl
  | cons update rest ih =>
      rcases update with ⟨key, v⟩
      obtain ⟨⟨first, rfl⟩, htexts⟩ := HasTextKeys.cons hnamed.texts
      have hdifferent := List.nodup_cons.1 hnamed.different
      have hstep : overlay base ((.str first, v) :: rest) = overlay (put (.str first) v base) rest := rfl
      rw [hstep, ih ⟨htexts, hdifferent.2⟩]
      by_cases hname : first = name
      · subst hname
        have hnone : member? rest first = none := member?_eq_none_iff.2 hdifferent.1
        rw [hnone, member?_put_self, member?_cons_self]
        rfl
      · have hne : Scalar.str first ≠ .str name := by simpa using hname
        rw [member?_put_of_ne hname, member?_cons_of_ne hne]

end Entries

/-! ## Items -/

namespace Value

variable {v : Value}

/-- Only a mapping has members. -/
theorem entries?_eq_some_iff {entries : Entries} : v.entries? = some entries ↔ v = .map entries := by
  cases v <;> simp [entries?]

/-- What can be iterated is a list, or gives a row of leaves. -/
theorem iterate_eq_ok {items : List Value} :
    v.iterate = .ok items →
      v.items? = some items ∨ v.items? = none ∧ ∃ leaves : List Scalar, items = leaves.map .scalar := by
  intro h
  cases v with
  | list vs =>
      cases h
      exact Or.inl rfl
  | map entries =>
      cases h
      exact Or.inr ⟨rfl, Entries.keys entries, rfl⟩
  | set members =>
      cases h
      exact Or.inr ⟨rfl, members, rfl⟩
  | pair k v =>
      cases h
  | again isMap places =>
      cases h
  | scalar s =>
      refine Or.inr ⟨rfl, ?_⟩
      cases s with
      | str s =>
          cases h
          -- A text is a row of its letters, and a byte string one of its bytes.
          refine ⟨(Text.letters s.toList).map fun c => .str (String.ofList c), ?_⟩
          rw [List.map_map]
          rfl
      | bytes b =>
          cases h
          refine ⟨b.map fun n => .int n.toNat, ?_⟩
          rw [List.map_map]
          rfl
      | _ =>
          cases h

/-- What counts as present is not null. -/
theorem isNull_of_truthy : v.truthy = true → v.isNull = false := by
  intro htruthy
  cases v with
  | scalar s =>
      cases s with
      | null =>
          cases htruthy
      | _ =>
          rfl
  | _ =>
      rfl

theorem items?_of_not_truthy : ¬ v.truthy = true → v.items?.getD [] = [] := by
  intro h
  cases v with
  | list vs =>
      simpa [truthy, items?] using h
  | _ =>
      rfl

theorem entries?_of_not_truthy : ¬ v.truthy = true → v.entries?.getD [] = [] := by
  intro h
  cases v with
  | map entries =>
      simpa [truthy, entries?] using h
  | _ =>
      rfl

end Value

end ApiView
