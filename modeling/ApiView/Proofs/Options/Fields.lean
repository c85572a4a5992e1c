import ApiView.Options.Reading
import ApiView.Proofs.Json.Leaves

/-!
# Fields — options field by field

Options are read field by field, and each field is of one of three kinds.  What holds of all fields is
stated once, over the list of them:

* `Kind`, `typedFields`: the kinds of fields, and every field with its kind;
* `Kind.value`, `Kind.problems`: what a field is read as, and what is wrong with it;
* `form_ofEntries`, `problems_eq`: the form of options and the problems with them, by fields;
* `Kind.value_eq_kept`: a field without problems keeps what it is given, or has its default;
* `form_reread`: options that are read from the form of others and some updates.
-/

namespace ApiView
namespace Options

/-! ## Kinds -/

/-- The kinds of fields: an optional text, a truth value, a list of texts. -/
inductive Kind
  | text
  | flag
  | texts
deriving DecidableEq, Repr

/-- Every field with its kind, in order. -/
def typedFields : List (Field × Kind) :=
  [(classNameField, .text), (moduleNameField, .text), (multipleField, .flag),
   (requestBodyNameField, .text), (es6Field, .flag), (esnextField, .flag), (importsField, .texts),
   (pathField, .text), (controllersDirField, .text), (definitionsDirField, .text),
   (strictContentTypeField, .flag)]

namespace Kind

/-- What a field of a kind keeps of a value that it accepts: of a truth value, what it stands for. -/
def kept : Kind → Value → Value
  | flag, v => .bool ((looseBool v).toOption.getD false)
  | _, v => v

/-- The values that fields of a kind have. -/
def Has : Kind → Value → Prop
  | text, v => v.isNull = true ∨ ∃ s, v = .str s
  | flag, v => ∃ b, v = .bool b
  | texts, v => ∃ items : List String, v = .list (items.map .str)

/-- The value of a field that is not given. -/
def default : Kind → Value
  | text => .null
  | flag => .bool false
  | texts => .list []

/-- What a field is read as. -/
def value (k : Kind) (f : Field) (entries : Entries) : Value :=
  match k with
  | text => .optional (textOf entries f)
  | flag => .bool (boolOf entries f)
  | texts => .list ((textsOf entries f).map .str)

/-- What is wrong with a field. -/
def problems (k : Kind) (f : Field) (entries : Entries) : List Problem :=
  match k with
  | text => textProblems entries f
  | flag => boolProblems entries f
  | texts => textsProblems entries f

end Kind

/-! ## All fields -/

/-- The form of options lists every field with its value. -/
theorem form_ofEntries (entries : Entries) :
    (ofEntries entries).form =
      typedFields.map fun field => (.str field.1.snake, field.2.value field.1 entries) := rfl

/-- The problems of options are those of the fields, and then the unknown keys. -/
theorem problems_eq (entries : Entries) :
    problems entries =
      (typedFields.flatMap fun field => field.2.problems field.1 entries) ++
        unknownProblems entries := by
  simp [problems, typedFields, Kind.problems]

/-- Options that are read are those of a mapping without problems. -/
theorem readEntries_eq_ok {entries : Entries} {options : Options} :
    readEntries entries = .ok options →
      options = ofEntries entries ∧
        ∀ field ∈ typedFields, field.2.problems field.1 entries = [] := by
  intro h
  unfold readEntries at h
  dsimp only at h
  split at h
  · rename_i hempty
    cases h
    rw [List.isEmpty_iff, problems_eq, List.append_eq_nil_iff, List.flatMap_eq_nil_iff] at hempty
    exact ⟨rfl, hempty.1⟩
  · cases h

/-! ## A single field -/

/-- The value that a field is given, under either spelling. -/
def Field.givenValue? (f : Field) (entries : Entries) : Option Value :=
  (entries.member? f.camel).or (entries.member? f.snake)

/-- The value of a field under the spelling that it is given with. -/
theorem Field.given?_eq (f : Field) (entries : Entries) :
    (f.given? entries).map Prod.snd = f.givenValue? entries := by
  unfold Field.given? Field.givenValue?
  cases entries.member? f.camel with
  | none =>
      cases entries.member? f.snake <;> rfl
  | some v =>
      rfl

namespace Kind

variable {k : Kind} {f : Field} {entries : Entries} {v : Value}

/-- A field that is not given has its default. -/
theorem value_of_none (h : f.givenValue? entries = none) : k.value f entries = k.default := by
  rw [← Field.given?_eq, Option.map_eq_none_iff] at h
  cases k with
  | text =>
      simp only [value, textOf, h]
      rfl
  | flag =>
      simp only [value, boolOf, h]
      rfl
  | texts =>
      simp only [value, textsOf, h]
      rfl

/-- What a field is read as, by the value that it is given. -/
theorem value_of_some (h : f.givenValue? entries = some v) :
    k.value f entries =
      match k with
      | text => .optional v.text?
      | flag => .bool ((looseBool v).toOption.getD false)
      | texts => .list (((v.items?.getD []).filterMap Value.text?).map .str) := by
  rw [← Field.given?_eq, Option.map_eq_some_iff] at h
  obtain ⟨⟨spelling, w⟩, hgiven, rfl⟩ := h
  cases k with
  | text =>
      simp only [value, textOf, hgiven]
      rfl
  | flag =>
      simp only [value, boolOf, hgiven]
  | texts =>
      simp only [value, textsOf, hgiven]
      cases w <;> rfl

/-- Fields have values of their kind. -/
theorem has_value (k : Kind) (f : Field) (entries : Entries) : k.Has (k.value f entries) := by
  cases k with
  | text =>
      rw [value]
      cases textOf entries f with
      | none =>
          exact .inl rfl
      | some s =>
          exact .inr ⟨s, rfl⟩
  | flag =>
      exact ⟨_, rfl⟩
  | texts =>
      exact ⟨_, rfl⟩

theorem filterMap_text?_str (texts : List String) :
    (texts.map Value.str).filterMap Value.text? = texts := by
  rw [List.filterMap_map]
  exact List.filterMap_some

/-- A value of the kind is read as it is. -/
theorem value_of_has (hgiven : f.givenValue? entries = some v) (hv : k.Has v) :
    k.value f entries = v := by
  rw [value_of_some hgiven]
  cases k with
  | text =>
      rcases hv with hnull | ⟨s, rfl⟩
      · have hv : v = .null := by
          unfold Value.isNull at hnull
          split at hnull
          · rfl
          · cases hnull
        subst hv
        rfl
      · rfl
  | flag =>
      obtain ⟨b, rfl⟩ := hv
      rfl
  | texts =>
      obtain ⟨texts, rfl⟩ := hv
      exact congrArg Value.list (congrArg (List.map Value.str) (filterMap_text?_str texts))

/-! ### Fields without problems -/

/-- A value without bytes in place of a text is that text. -/
theorem exists_str_of_textProblemsAt {place : List Scalar} (hreadable : v.Readable) :
    v.textProblemsAt place = [] → ∃ s, v = .str s := by
  intro h
  unfold Value.textProblemsAt Value.fieldText at h
  split at h
  · rename_i hok
    split at hok
    · exact ⟨_, rfl⟩
    · cases Value.readable_scalar.1 hreadable
    · cases hok
  · cases h

/-- A list without problems is a list of texts. -/
theorem exists_texts_of_listedTextProblems {field : String} {i : Nat} {items : List Value}
    (hreadable : ∀ v ∈ items, v.Readable) :
    listedTextProblems field i items = [] → ∃ texts : List String, items = texts.map .str := by
  intro h
  induction items generalizing i with
  | nil =>
      exact ⟨[], rfl⟩
  | cons v rest ih =>
      obtain ⟨hv, hrest⟩ := List.forall_mem_cons.1 hreadable
      rw [listedTextProblems, List.append_eq_nil_iff] at h
      obtain ⟨s, rfl⟩ := exists_str_of_textProblemsAt hv h.1
      obtain ⟨texts, rfl⟩ := ih hrest h.2
      exact ⟨s :: texts, rfl⟩

/-- What a field without problems keeps is of its kind. -/
theorem has_kept (hreadable : v.Readable) (hgiven : f.givenValue? entries = some v)
    (hproblems : k.problems f entries = []) : k.Has (k.kept v) := by
  rw [← Field.given?_eq, Option.map_eq_some_iff] at hgiven
  obtain ⟨⟨spelling, w⟩, hgiven, rfl⟩ := hgiven
  -- A truth value that is kept is one by definition; only texts need that nothing is wrong with them.
  cases k with
  | text =>
      simp only [problems, textProblems, hgiven, Value.optionalTextProblems] at hproblems
      split at hproblems
      · rename_i hnull
        exact .inl hnull
      · exact .inr (exists_str_of_textProblemsAt hreadable hproblems)
  | flag =>
      exact ⟨_, rfl⟩
  | texts =>
      simp only [problems, textsProblems, hgiven] at hproblems
      split at hproblems
      · rename_i heq
        cases heq
        obtain ⟨texts, htexts⟩ := exists_texts_of_listedTextProblems
          (Value.readable_list_iff.1 hreadable) hproblems
        exact ⟨texts, congrArg Value.list htexts⟩
      · cases hproblems
      · rename_i heq
        cases heq

/-- A field without problems keeps what it is given, or has its default. -/
theorem value_eq_kept (hreadable : ∀ v, f.givenValue? entries = some v → v.Readable)
    (hproblems : k.problems f entries = []) :
    k.value f entries = ((f.givenValue? entries).map k.kept).getD k.default := by
  cases hgiven : f.givenValue? entries with
  | none =>
      exact value_of_none hgiven
  | some v =>
      cases k with
      | flag =>
          exact value_of_some hgiven
      | text =>
          exact value_of_has hgiven (has_kept (hreadable v hgiven) hgiven hproblems)
      | texts =>
          exact value_of_has hgiven (has_kept (hreadable v hgiven) hgiven hproblems)

end Kind

/-! ## Reading a form again -/

/-- Members that set fields to values of their kinds, under the snake-case spellings. -/
structure Updates (entries : Entries) : Prop where
  named : entries.Named
  typed : ∀ entry ∈ entries, ∃ field ∈ typedFields,
    entry.1 = .str field.1.snake ∧ field.2.Has entry.2

/-- Only a field with one spelling has a camel-case spelling that is the snake-case one of some field. -/
theorem snake_ne_camel :
    ∀ field ∈ typedFields, field.1.camel = field.1.snake ∨
      ∀ other ∈ typedFields, other.1.snake ≠ field.1.camel := by
  decide

/-- Different fields have different names. -/
theorem eq_of_snake :
    ∀ field ∈ typedFields, ∀ other ∈ typedFields, field.1.snake = other.1.snake → field = other := by
  decide

/-- The form of options has every field once, under its snake-case spelling. -/
theorem named_form (options : Options) : options.form.Named := by
  have hkeys : options.form.keys = typedFields.map fun field => .str field.1.snake := rfl
  refine ⟨?_, ?_⟩
  · rw [hkeys]
    intro key hkey
    obtain ⟨field, -, rfl⟩ := List.mem_map.1 hkey
    exact ⟨_, rfl⟩
  · rw [hkeys]
    decide

section Form

variable {entries : Entries} {field : Field × Kind}

/-- Every field is found in the form of options. -/
theorem member?_form (hfield : field ∈ typedFields) :
    (ofEntries entries).form.member? field.1.snake = some (field.2.value field.1 entries) :=
  Entries.member?_of_mem (named_form _)
    (List.mem_map_of_mem (f := fun field => (Scalar.str field.1.snake, field.2.value field.1 entries))
      hfield)

/-- In a mapping with snake-case spellings only, a field is given under its own. -/
theorem givenValue?_of_snakes
    (hkeys : ∀ entry ∈ entries, ∃ other ∈ typedFields, entry.1 = .str other.1.snake)
    (hfield : field ∈ typedFields) :
    field.1.givenValue? entries = entries.member? field.1.snake := by
  unfold Field.givenValue?
  rcases snake_ne_camel field hfield with hsame | hother
  · rw [hsame]
    exact Option.or_self
  · have hnone : entries.member? field.1.camel = none := by
      refine Option.eq_none_iff_forall_ne_some.2 fun v hfound => ?_
      obtain ⟨other, hmem, hkey⟩ := hkeys _ (Entries.mem_of_member? hfound)
      exact hother other hmem (Scalar.str.inj hkey).symm
    rw [hnone]
    rfl

/-- Options that are read from the form of others with updates over it: an updated field has its new
value, any other the one that it had. -/
theorem form_reread {updates : Entries} {options : Options} (hupdates : Updates updates)
    (h : readEntries (Entries.overlay (ofEntries entries).form updates) = .ok options) :
    options.form = typedFields.map fun field =>
      (.str field.1.snake,
        (updates.member? field.1.snake).getD (field.2.value field.1 entries)) := by
  obtain ⟨rfl, -⟩ := readEntries_eq_ok h
  rw [form_ofEntries]
  refine List.map_congr_left fun field hfield => congrArg (Prod.mk _) ?_
  -- The form and the updates use snake-case spellings only, so each field is given under its own.
  have hkeys : ∀ entry ∈ Entries.overlay (ofEntries entries).form updates,
      ∃ other ∈ typedFields, entry.1 = .str other.1.snake := by
    intro entry hentry
    rcases Entries.mem_overlay hupdates.named.texts hentry with hold | hnew
    · rw [form_ofEntries] at hold
      obtain ⟨other, hmem, rfl⟩ := List.mem_map.1 hold
      exact ⟨other, hmem, rfl⟩
    · obtain ⟨other, hmem, hkey, -⟩ := hupdates.typed entry hnew
      exact ⟨other, hmem, hkey⟩
  have hgiven := givenValue?_of_snakes hkeys hfield
  rw [Entries.member?_overlay hupdates.named, member?_form hfield] at hgiven
  cases hupdate : updates.member? field.1.snake with
  | none =>
      rw [hupdate] at hgiven
      exact Kind.value_of_has hgiven (Kind.has_value _ _ _)
  | some v =>
      rw [hupdate] at hgiven
      obtain ⟨other, hmem, hkey, hv⟩ := hupdates.typed _ (Entries.mem_of_member? hupdate)
      have hother : field = other := eq_of_snake field hfield other hmem (Scalar.str.inj hkey)
      subst hother
      exact Kind.value_of_has hgiven hv

end Form

end Options
end ApiView
