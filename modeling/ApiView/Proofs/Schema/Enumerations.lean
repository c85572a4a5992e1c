import ApiView.Proofs.Json.Compact
import ApiView.Proofs.Schema.Forms

/-!
# Enumerations — values that are told by their union

The type of an enumeration is the union of its values, each written as a JSON literal.  What separates two
literals may stand in a literal, too, so the union cannot be cut at its bars.  It is read from the left
instead: a literal is what a JSON reader takes, and whatever the reader leaves is the rest of the union.

* `compact_append_inj`: no literal goes on in two ways;
* `unionText`, `unionText_inj`: the literals with bars between them are told from each other;
* `enumerated`, `typeText_enumerated_iff`: the node that enumerates values, and its type;
* `obstacle?_eq_none_iff`: a value with a JSON form is written iff each integer in it is;
* `enumerated_injective`: enumerations of one type are equal.
-/

namespace ApiView

/-! ## Which values are written -/

namespace Json

theorem keyObstacle?_str (name : String) : keyObstacle? (.str name) = none := rfl

mutual

/-- A value that JSON has a form for can be written unless an integer in it is too long. -/
theorem obstacle?_eq_none_iff :
    (v : Value) → v.isJson = true → (obstacle? v = none ↔ v.hasLong = false)
  | .scalar s => by
      intro _
      rw [obstacle?, leafObstacle?, Value.hasLong]
      cases s.isLong <;> simp
  | .list items => fun hjson => itemsObstacle?_eq_none_iff items hjson
  | .map entries => by
      intro hjson
      rw [Value.isJson, Bool.and_eq_true] at hjson
      exact membersObstacle?_eq_none_iff entries hjson.2
  | .pair _ _ | .set _ | .again _ _ => fun hjson => by cases hjson

theorem itemsObstacle?_eq_none_iff :
    (items : List Value) → itemsAreJson items = true →
      (itemsObstacle? items = none ↔ itemsHaveLong items = false)
  | [] => fun _ => by simp [itemsObstacle?, itemsHaveLong]
  | v :: rest => by
      intro hjson
      rw [itemsAreJson, Bool.and_eq_true] at hjson
      rw [itemsObstacle?, itemsHaveLong, Option.orElse_eq_or, Option.or_eq_none_iff,
        Bool.or_eq_false_iff, obstacle?_eq_none_iff v hjson.1,
        itemsObstacle?_eq_none_iff rest hjson.2]

theorem membersObstacle?_eq_none_iff :
    (entries : List (Scalar × Value)) → membersAreJson entries = true →
      (membersObstacle? entries = none ↔ membersHaveLong entries = false)
  | [] => fun _ => by simp [membersObstacle?, membersHaveLong]
  | (key, v) :: rest => by
      intro hjson
      obtain ⟨name, rfl, _, hv, hrest⟩ := members_of_areJson hjson
      rw [membersObstacle?, membersHaveLong, keyObstacle?_str, Option.orElse_none,
        Option.orElse_eq_or, Option.or_eq_none_iff, Bool.or_eq_false_iff, Bool.or_eq_false_iff,
        obstacle?_eq_none_iff v hv, membersObstacle?_eq_none_iff rest hrest]
      simp [Scalar.isLong]

end

/-! ## One literal -/

/-- A value that has a JSON form and can be written in it. -/
def Writable (v : Value) : Prop :=
  v.isJson = true ∧ obstacle? v = none

variable {v w : Value} {rest rest' : List Char}

/-- The reader takes the line of a value and leaves what follows it. -/
theorem readValue_compact (h : Writable v) (hrest : EndsValue rest) {fuel : Nat} :
    2 * (compact v).length < fuel → readValue fuel (compact v ++ rest) = .ok (v, rest) :=
  fun hfuel => (denotes_compact v h.1 h.2).isRead fuel rest hfuel hrest

/-- Where two lines and what follows them are one text, the lines are those of one value. -/
theorem compact_append_inj (hv : Writable v) (hw : Writable w) (hrest : EndsValue rest)
    (hrest' : EndsValue rest') :
    compact v ++ rest = compact w ++ rest' → v = w ∧ rest = rest' := by
  intro h
  -- Both lines are read under one bound, which is large enough for either.
  have hfuel : 2 * (compact v).length < 2 * ((compact v).length + (compact w).length) + 1 := by
    omega
  have hfuel' : 2 * (compact w).length < 2 * ((compact v).length + (compact w).length) + 1 := by
    omega
  have hread := readValue_compact hv hrest hfuel
  rw [h, readValue_compact hw hrest' hfuel', Except.ok.injEq, Prod.mk.injEq] at hread
  exact ⟨hread.1.symm, hread.2.symm⟩

end Json

namespace TypeText

open Json (compact Writable EndsValue)

/-! ## The union of literals -/

/-- What follows the first of some literals in their union. -/
def furtherText : List Value → List Char
  | [] => []
  | v :: rest => ' ' :: '|' :: ' ' :: (compact v ++ furtherText rest)

/-- The literals of some values with bars between them. -/
def unionText : List Value → List Char
  | [] => []
  | v :: rest => compact v ++ furtherText rest

/-- A literal ends where another one follows, and at the end of the union. -/
theorem endsValue_furtherText (values : List Value) : EndsValue (furtherText values) := by
  cases values with
  | nil =>
      intro c hc
      cases hc
  | cons v rest =>
      exact EndsValue.cons rfl _

variable {values xs ys : List Value}

/-- Further literals are told from each other.  The induction is on the first list; each step takes a bar
and the literal behind it from both texts. -/
theorem furtherText_inj (hxs : ∀ v ∈ xs, Writable v) (hys : ∀ v ∈ ys, Writable v) :
    furtherText xs = furtherText ys → xs = ys := by
  intro h
  induction xs generalizing ys with
  | nil =>
      cases ys with
      | nil =>
          rfl
      | cons w ys =>
          cases h
  | cons v xs ih =>
      cases ys with
      | nil =>
          cases h
      | cons w ys =>
          obtain ⟨hv, hxs'⟩ := List.forall_mem_cons.1 hxs
          obtain ⟨hw, hys'⟩ := List.forall_mem_cons.1 hys
          have hliterals : compact v ++ furtherText xs = compact w ++ furtherText ys := by
            simpa only [furtherText, List.cons.injEq, true_and] using h
          obtain ⟨rfl, hfurther⟩ := Json.compact_append_inj hv hw (endsValue_furtherText xs)
            (endsValue_furtherText ys) hliterals
          rw [ih hxs' hys' hfurther]

/-- Unions of some literals are told from each other. -/
theorem unionText_inj (hxs : ∀ v ∈ xs, Writable v) (hys : ∀ v ∈ ys, Writable v) (hne : xs ≠ [])
    (hne' : ys ≠ []) : unionText xs = unionText ys → xs = ys := by
  intro h
  obtain ⟨v, xs, rfl⟩ := List.exists_cons_of_ne_nil hne
  obtain ⟨w, ys, rfl⟩ := List.exists_cons_of_ne_nil hne'
  obtain ⟨hv, hxs'⟩ := List.forall_mem_cons.1 hxs
  obtain ⟨hw, hys'⟩ := List.forall_mem_cons.1 hys
  obtain ⟨rfl, hfurther⟩ := Json.compact_append_inj hv hw (endsValue_furtherText xs)
    (endsValue_furtherText ys) h
  rw [furtherText_inj hxs' hys' hfurther]

/-- The literals with bars between them, as the texts of the literals. -/
theorem intercalate_literals (values : List Value) :
    (" | ".intercalate (values.map fun v => String.ofList (compact v))).toList = unionText values := by
  have hcons : ∀ v rest, ([' ', '|', ' ']).intercalate (compact v :: List.map compact rest) =
      compact v ++ furtherText rest := by
    intro v rest
    induction rest generalizing v with
    | nil =>
        simp [furtherText, List.intercalate]
    | cons w rest ih =>
        rw [List.map_cons, List.intercalate_cons_cons, ih, furtherText, List.append_assoc]
        rfl
  rw [String.toList_intercalate, List.map_map]
  cases values with
  | nil =>
      rfl
  | cons v rest =>
      have htexts : (String.toList ∘ fun v => String.ofList (compact v)) = compact :=
        funext fun v => String.toList_ofList
      rw [htexts]
      exact hcons v rest

/-! ## The type of an enumeration -/

/-- The node that enumerates values. -/
def enumerated (values : List Value) : Value :=
  .map [(.str "enum", .list values)]

theorem form_enumerated (hne : values ≠ []) :
    form [(.str "enum", .list values)] = .enumeration values := by
  obtain ⟨v, rest, rfl⟩ := List.exists_cons_of_ne_nil hne
  rfl

/-- The literal of a value is its compact text, if it can be written. -/
theorem literal_eq_ok_iff {v : Value} {text : String} :
    literal v = .ok text ↔ Json.obstacle? v = none ∧ String.ofList (compact v) = text := by
  rw [literal]
  cases Json.obstacle? v <;> simp

/-- A row of values has literals iff each of them can be written. -/
theorem mapM_literal_eq_ok_iff {texts : List String} :
    values.mapM literal = .ok texts ↔
      (∀ v ∈ values, Json.obstacle? v = none) ∧
        values.map (fun v => String.ofList (compact v)) = texts := by
  rw [mapM_eq_ok_iff]
  simp only [literal_eq_ok_iff]
  induction values generalizing texts with
  | nil =>
      rw [List.forall₂_nil_left_iff]
      simp [eq_comm]
  | cons v rest ih =>
      rw [List.forall₂_cons_left_iff, List.forall_mem_cons, List.map_cons]
      simp only [ih]
      constructor
      · rintro ⟨_, _, ⟨hv, rfl⟩, ⟨hrest, rfl⟩, rfl⟩
        exact ⟨⟨hv, hrest⟩, rfl⟩
      · rintro ⟨⟨hv, hrest⟩, rfl⟩
        exact ⟨_, _, ⟨hv, rfl⟩, ⟨hrest, rfl⟩, rfl⟩

/-- An enumeration has a type iff each value can be written, and then that is their union. -/
theorem typeText_enumerated_iff (hne : values ≠ []) {whole : String} :
    typeText (enumerated values) = .ok whole ↔
      (∀ v ∈ values, Json.obstacle? v = none) ∧ unionText values = whole.toList := by
  have hform := form_enumerated hne
  have hstructure : (form [(.str "enum", .list values)]).isStructure = true := by
    rw [hform]
    rfl
  have hnull : ∀ type,
      withNull (Entries.member [(.str "enum", .list values)] "nullable").isTrue type = type :=
    fun _ => rfl
  rw [enumerated, typeText_of_structure hstructure, structureText_of_enumeration hform]
  simp only [hnull, bind_eq_ok_iff, pure_eq_ok_iff, mapM_literal_eq_ok_iff, Except.ok.injEq,
    ← intercalate_literals, String.toList_inj]
  constructor
  · rintro ⟨_, ⟨_, ⟨hfree, rfl⟩, rfl⟩, rfl⟩
    exact ⟨hfree, rfl⟩
  · rintro ⟨hfree, rfl⟩
    exact ⟨_, ⟨_, ⟨hfree, rfl⟩, rfl⟩, rfl⟩

/-- Values that JSON has a form for are told by the type of their enumeration: it has one iff no integer in
them is too long, and values with another enumeration of that type are the same, in the same order. -/
theorem enumerated_injective (hne : xs ≠ []) (hne' : ys ≠ []) (hxs : ∀ v ∈ xs, v.isJson = true)
    (hys : ∀ v ∈ ys, v.isJson = true) :
    ((∃ whole, typeText (enumerated xs) = .ok whole) ↔ ∀ v ∈ xs, v.hasLong = false) ∧
      ∀ whole, typeText (enumerated xs) = .ok whole → typeText (enumerated ys) = .ok whole →
        xs = ys := by
  constructor
  · constructor
    · rintro ⟨whole, hwhole⟩ v hv
      exact (Json.obstacle?_eq_none_iff v (hxs v hv)).1 (((typeText_enumerated_iff hne).1 hwhole).1 v hv)
    · intro hshort
      refine ⟨String.ofList (unionText xs), (typeText_enumerated_iff hne).2 ⟨fun v hv => ?_, ?_⟩⟩
      · exact (Json.obstacle?_eq_none_iff v (hxs v hv)).2 (hshort v hv)
      · rw [String.toList_ofList]
  · intro whole hwhole hwhole'
    obtain ⟨hfree, htext⟩ := (typeText_enumerated_iff hne).1 hwhole
    obtain ⟨hfree', htext'⟩ := (typeText_enumerated_iff hne').1 hwhole'
    exact unionText_inj (fun v hv => ⟨hxs v hv, hfree v hv⟩) (fun v hv => ⟨hys v hv, hfree' v hv⟩)
      hne hne' (htext.trans htext'.symm)

/-- Values of every kind.  The first one is a text with what separates two texts in it. -/
def barredValues : List Value :=
  [.str "a\" | \"b", .str "na\u00efve\\ 😀", .int 1, .scalar (.bool true), .scalar .null,
    .list [.list [], .int (-20)], .map [(.str "a | b", .str "null")]]

/-- The same values, but for the first one, which is cut at the bar. -/
def separateValues : List Value :=
  .str "a" :: .str "b" :: barredValues.tail

def barredType : String :=
  "\"a\\\" | \\\"b\" | \"na\\u00efve\\\\ \\ud83d\\ude00\" | 1 | true | null | [[], -20] | " ++
    "\x7b\"a | b\": \"null\"\x7d"

theorem barredValues_not_separateValues :
    (∀ v ∈ barredValues, v.isJson = true) ∧ (∀ v ∈ separateValues, v.isJson = true) ∧
      (∀ v ∈ barredValues, v.hasLong = false) ∧
        typeText (enumerated barredValues) = .ok barredType ∧
          typeText (enumerated separateValues) ≠ .ok barredType := by
  have hbarred : ∀ v ∈ barredValues, v.isJson = true := by decide +kernel
  have hseparate : ∀ v ∈ separateValues, v.isJson = true := by decide +kernel
  have htype : typeText (enumerated barredValues) = .ok barredType := by decide +kernel
  obtain ⟨hwritten, htold⟩ := enumerated_injective (List.cons_ne_nil _ _) (List.cons_ne_nil _ _)
    hbarred hseparate
  have hne : barredValues ≠ separateValues := by decide +kernel
  exact ⟨hbarred, hseparate, hwritten.1 ⟨barredType, htype⟩, htype,
    fun htype' => hne (htold barredType htype htype')⟩

end TypeText
end ApiView
