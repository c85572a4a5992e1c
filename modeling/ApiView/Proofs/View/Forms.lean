import Mathlib.Data.List.Nodup
import ApiView.Proofs.Json.Compact
import ApiView.Proofs.Scalars
import ApiView.View.Form

/-!
# Forms — what templates see is JSON

A view is handed to templates as a tree of mappings with camel-case names, its untyped parts in plain
form.  Whatever a document brought into it, only two things can keep such a tree from going through JSON
unchanged: a double, and a text with a half of a surrogate pair.

* `Value.isExact`: whether the leaves and keys of a value are free of both;
* `Value.JsonIfExact`: JSON has a form of its own for a value as soon as it is exact;
* `jsonIfExact_plain`, `jsonIfExact_object`: plain values and mappings with different names are so;
* `View.jsonIfExact_form`: the form of a view is so.
-/

namespace ApiView

/-! ## Exact values -/

/-- Whether a leaf or key is no double, and holds no half of a pair. -/
def Scalar.isExact : Scalar → Bool
  | .float _ => false
  | .str s => Text.isProper s
  | _ => true

/-- Whether a value holds no double and no half of a pair. -/
def Value.isExact (v : Value) : Bool :=
  v.scalars.all Scalar.isExact

namespace Value

/-- A list is exact if its items are. -/
theorem isExact_list_iff {items : List Value} :
    (Value.list items).isExact = true ↔ ∀ v ∈ items, v.isExact = true := by
  simp only [isExact, List.all_eq_true]
  exact forall_scalars_list

/-- A mapping is exact if its keys and values are. -/
theorem isExact_map_iff {entries : Entries} :
    (Value.map entries).isExact = true ↔
      ∀ entry ∈ entries, entry.1.isExact = true ∧ entry.2.isExact = true := by
  simp only [isExact, List.all_eq_true]
  exact forall_scalars_map

end Value

/-! ## Values with a form of their own -/

theorem itemsAreJson_iff {items : List Value} :
    itemsAreJson items = true ↔ ∀ v ∈ items, v.isJson = true := by
  induction items with
  | nil =>
      simp [itemsAreJson]
  | cons v rest ih =>
      simp [itemsAreJson, ih]

/-- Members with proper names and JSON values are JSON. -/
theorem membersAreJson_of {entries : Entries} :
    (∀ entry ∈ entries,
      (∃ name, entry.1 = .str name ∧ Text.isProper name = true) ∧ entry.2.isJson = true) →
        membersAreJson entries = true := by
  intro h
  induction entries with
  | nil =>
      rfl
  | cons entry rest ih =>
      rcases entry with ⟨key, v⟩
      obtain ⟨⟨name, hkey, hproper⟩, hv⟩ := h (key, v) List.mem_cons_self
      dsimp only at hkey hv
      subst hkey
      have hrest := ih fun entry hmem => h entry (List.mem_cons_of_mem _ hmem)
      rw [membersAreJson, hproper, hv, hrest]
      rfl

namespace Value

/-- JSON has a form of its own for a value, as soon as the value is exact. -/
def JsonIfExact (v : Value) : Prop :=
  v.isExact = true → v.isJson = true

@[simp]
theorem jsonIfExact_str (s : String) : (Value.str s).JsonIfExact := by
  intro h
  simpa [isExact, scalars, Scalar.isExact, isJson, Value.str] using h

@[simp]
theorem jsonIfExact_null : Value.null.JsonIfExact := fun _ => rfl

@[simp]
theorem jsonIfExact_bool (b : Bool) : (Value.bool b).JsonIfExact := fun _ => rfl

@[simp]
theorem jsonIfExact_optional (s : Option String) : (Value.optional s).JsonIfExact := by
  cases s with
  | none =>
      exact jsonIfExact_null
  | some s =>
      exact jsonIfExact_str s

/-- A list is JSON where it is exact, if its items are. -/
theorem jsonIfExact_list {items : List Value} :
    (∀ v ∈ items, v.JsonIfExact) → (Value.list items).JsonIfExact := by
  intro h hexact
  rw [isExact_list_iff] at hexact
  exact itemsAreJson_iff.2 fun v hv => h v hv (hexact v hv)

/-- A list of records, each in its form. -/
theorem jsonIfExact_list_map {α : Type} {f : α → Value} {xs : List α} :
    (∀ x ∈ xs, (f x).JsonIfExact) → (Value.list (xs.map f)).JsonIfExact := by
  intro h
  exact jsonIfExact_list (List.forall_mem_map.2 h)

/-- A mapping with distinct names is JSON where it is exact, if its values are. -/
theorem jsonIfExact_map {entries : Entries} (hnamed : entries.Named)
    (hvalues : ∀ entry ∈ entries, entry.2.JsonIfExact) : (Value.map entries).JsonIfExact := by
  intro hexact
  rw [isExact_map_iff] at hexact
  rw [isJson, Bool.and_eq_true, decide_eq_true_eq]
  refine ⟨hnamed.different, membersAreJson_of fun entry hentry => ?_⟩
  obtain ⟨hkey, hv⟩ := hexact entry hentry
  obtain ⟨name, hname⟩ := hnamed.texts entry.1 (List.mem_map_of_mem hentry)
  rw [hname] at hkey
  exact ⟨⟨name, hname, hkey⟩, hvalues entry hentry hv⟩

/-- A record whose fields have different names. -/
theorem jsonIfExact_object {members : List (String × Value)} (hnames : (members.map (·.1)).Nodup)
    (hvalues : ∀ m ∈ members, m.2.JsonIfExact) : (Value.object members).JsonIfExact := by
  have hkeys : Entries.keys (members.map fun m => (Scalar.str m.1, m.2)) =
      (members.map (·.1)).map Scalar.str := by
    simp [Entries.keys, Function.comp_def]
  change (Value.map (members.map fun m => (Scalar.str m.1, m.2))).JsonIfExact
  refine jsonIfExact_map ⟨?_, ?_⟩ (List.forall_mem_map.2 hvalues)
  · rw [hkeys]
    exact List.forall_mem_map.2 fun name _ => ⟨name, rfl⟩
  · rw [hkeys]
    exact List.Nodup.map (fun _ _ heq => Scalar.str.inj heq) hnames

end Value

/-! ## Plain values -/

theorem hasTextKeys_plainMembers (entries : Entries) :
    Entries.HasTextKeys (plainMembers entries) := by
  induction entries with
  | nil =>
      intro key hkey
      cases hkey
  | cons entry rest ih =>
      intro key hkey
      rcases List.mem_cons.1 hkey with rfl | hrest
      · exact ⟨_, rfl⟩
      · exact ih key hrest

/-- Where there is no obstacle at a value, there is none inside. -/
theorem atLevel_eq_none {levels : Nat} {inside : Option PlainObstacle} :
    atLevel levels inside = none → inside = none := by
  intro h
  unfold atLevel at h
  split at h
  · cases h
  · exact h

theorem plainObstacles_items {levels : Nat} {v : Value} {rest : List Value} :
    itemsPlainObstacle? levels (v :: rest) = none →
      v.plainObstacleWithin? levels = none ∧ itemsPlainObstacle? levels rest = none := by
  intro h
  rwa [itemsPlainObstacle?, Option.orElse_eq_or, Option.or_eq_none_iff] at h

theorem plainObstacles_members {levels : Nat} {key : Scalar} {v : Value} {rest : Entries} :
    membersPlainObstacle? levels ((key, v) :: rest) = none →
      v.plainObstacleWithin? levels = none ∧ membersPlainObstacle? levels rest = none := by
  intro h
  rw [membersPlainObstacle?, Option.orElse_eq_or, Option.orElse_eq_or, Option.or_eq_none_iff,
    Option.or_eq_none_iff] at h
  exact h.2

/-- The plain form of a leaf is JSON where it is exact. -/
theorem jsonIfExact_plainScalar (s : Scalar) : (Value.scalar s.plain).JsonIfExact := by
  intro hexact
  cases s with
  | float x =>
      -- A double stays one, unless JSON has no form for it.
      rw [Scalar.plain] at hexact ⊢
      split at hexact
      · cases hexact
      · rename_i hinfinite
        rw [if_neg hinfinite]
        rfl
  | date d =>
      exact Value.jsonIfExact_str _ hexact
  | dateTime t =>
      exact Value.jsonIfExact_str _ hexact
  | bytes b =>
      exact Value.jsonIfExact_str _ hexact
  | str t =>
      exact Value.jsonIfExact_str _ hexact
  | _ =>
      rfl

mutual

/-- The plain form of a value that has one, however many levels it may have. -/
theorem jsonIfExact_plain {levels : Nat} :
    (v : Value) → v.plainObstacleWithin? levels = none → v.plain.JsonIfExact
  | .scalar s => fun _ => jsonIfExact_plainScalar s
  | .list items => by
      intro hfree
      exact Value.jsonIfExact_list (jsonIfExact_plainItems items (atLevel_eq_none hfree))
  | .pair k v => by
      intro hfree
      have hparts := atLevel_eq_none hfree
      rw [Option.orElse_eq_or, Option.or_eq_none_iff] at hparts
      have hkey := jsonIfExact_plain k hparts.1
      have hvalue := jsonIfExact_plain v hparts.2
      exact Value.jsonIfExact_list (by simp [hkey, hvalue])
  | .set _ => fun _ => Value.jsonIfExact_list_map fun s _ => jsonIfExact_plainScalar s
  | .map entries => by
      intro hfree
      have htexts := hasTextKeys_plainMembers entries
      -- Keys that became equal are one, so the rest have different names.
      refine Value.jsonIfExact_map (Entries.named_ofPairs htexts) fun entry hentry => ?_
      exact jsonIfExact_plainMembers entries (atLevel_eq_none hfree) entry
        (Entries.mem_ofPairs htexts hentry)
  | .again _ _ => fun hfree => by cases hfree

/-- The plain forms of items are JSON where they are exact. -/
theorem jsonIfExact_plainItems {levels : Nat} :
    (items : List Value) → itemsPlainObstacle? levels items = none →
      ∀ v ∈ plainItems items, v.JsonIfExact
  | [] => fun _ v hv => nomatch hv
  | v :: rest => by
      intro hfree
      obtain ⟨hv, hrest⟩ := plainObstacles_items hfree
      exact List.forall_mem_cons.2 ⟨jsonIfExact_plain v hv, jsonIfExact_plainItems rest hrest⟩

theorem jsonIfExact_plainMembers {levels : Nat} :
    (entries : List (Scalar × Value)) → membersPlainObstacle? levels entries = none →
      ∀ entry ∈ plainMembers entries, entry.2.JsonIfExact
  | [] => fun _ entry hentry => nomatch hentry
  | (key, v) :: rest => by
      intro hfree
      obtain ⟨hv, hrest⟩ := plainObstacles_members hfree
      exact List.forall_mem_cons.2 ⟨jsonIfExact_plain v hv, jsonIfExact_plainMembers rest hrest⟩

end

/-! ## Records -/

/-- The form of a parameter without obstacles is JSON where it is exact. -/
theorem Parameter.jsonIfExact_form {p : Parameter} (hfree : p.plainObstacle? = none) :
    p.form.JsonIfExact := by
  have hparts : p.singleton.plainObstacle? = none ∧ p.default.plainObstacle? = none := by
    rwa [Parameter.plainObstacle?, Option.orElse_eq_or, Option.or_eq_none_iff] at hfree
  have hsingleton := jsonIfExact_plain p.singleton hparts.1
  have hdefault := jsonIfExact_plain p.default hparts.2
  exact Value.jsonIfExact_object (by simp) (by simp [hsingleton, hdefault])

theorem Header.jsonIfExact_form (h : Header) : h.form.JsonIfExact :=
  Value.jsonIfExact_object (by simp) (by simp)

theorem Response.jsonIfExact_form (r : Response) : r.form.JsonIfExact :=
  Value.jsonIfExact_object (by simp) (by simp)

theorem Scheme.jsonIfExact_form (s : Scheme) : s.form.JsonIfExact :=
  Value.jsonIfExact_object (by simp) (by simp)

theorem Definition.jsonIfExact_form (d : Definition) : d.form.JsonIfExact :=
  Value.jsonIfExact_object (by simp) (by simp)

theorem jsonIfExact_texts (texts : List String) : (Value.list (texts.map .str)).JsonIfExact :=
  Value.jsonIfExact_list_map fun text _ => Value.jsonIfExact_str text

/-- The form of a method without obstacles is JSON where it is exact. -/
theorem Method.jsonIfExact_form {m : Method} (hfree : m.plainObstacle? = none) :
    m.form.JsonIfExact := by
  have hparts : (m.externalDocs.bind fun docs =>
      (Value.map docs).plainObstacleWithin? (maxLevels + 1)) = none ∧
      ∀ p ∈ m.parameters, p.plainObstacle? = none := by
    rw [Method.plainObstacle?, Option.orElse_eq_or, Option.or_eq_none_iff] at hfree
    exact ⟨hfree.1, List.findSome?_eq_none_iff.1 hfree.2⟩
  have hdocs : ((m.externalDocs.map fun docs => (Value.map docs).plain).getD .null).JsonIfExact := by
    cases hfound : m.externalDocs with
    | none =>
        exact Value.jsonIfExact_null
    | some docs =>
        rw [hfound] at hparts
        exact jsonIfExact_plain (.map docs) hparts.1
  have hparameters : (Value.list (m.parameters.map Parameter.form)).JsonIfExact :=
    Value.jsonIfExact_list_map fun p hp => Parameter.jsonIfExact_form (hparts.2 p hp)
  have hheaders : (Value.list (m.headers.map Header.form)).JsonIfExact :=
    Value.jsonIfExact_list_map fun h _ => h.jsonIfExact_form
  have hresponses : (Value.list (m.responses.map Response.form)).JsonIfExact :=
    Value.jsonIfExact_list_map fun r _ => r.jsonIfExact_form
  exact Value.jsonIfExact_object (by simp)
    (by simp [hdocs, hparameters, hheaders, hresponses, jsonIfExact_texts])

/-- The form of a view that has one is JSON, as soon as it is exact. -/
theorem View.jsonIfExact_form {v : View} (hfree : v.plainObstacle? = none) :
    v.form.JsonIfExact := by
  have hmethods : (Value.list (v.methods.map Method.form)).JsonIfExact :=
    Value.jsonIfExact_list_map fun m hm =>
      Method.jsonIfExact_form (List.findSome?_eq_none_iff.1 hfree m hm)
  have hschemes : (Value.list (v.schemes.map Scheme.form)).JsonIfExact :=
    Value.jsonIfExact_list_map fun s _ => s.jsonIfExact_form
  have hdefinitions : (Value.list (v.definitions.map Definition.form)).JsonIfExact :=
    Value.jsonIfExact_list_map fun d _ => d.jsonIfExact_form
  exact Value.jsonIfExact_object (by simp)
    (by simp [hmethods, hschemes, hdefinitions, jsonIfExact_texts])

/-- What a view is handed as is its form, and that is a mapping. -/
theorem View.handed_eq_ok {v : View} {form : Value} :
    v.handed = .ok form → v.plainObstacle? = none ∧ form = v.form := by
  intro h
  rw [View.handed] at h
  cases hobstacle : v.plainObstacle? with
  | none =>
      rw [hobstacle] at h
      cases h
      exact ⟨rfl, rfl⟩
  | some obstacle =>
      rw [hobstacle] at h
      cases h

end ApiView
