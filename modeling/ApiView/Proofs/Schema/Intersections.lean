import ApiView.Proofs.Schema.Unions

/-!
# Intersections — `allOf` as it reads

The types of the members of an `allOf` stand with ampersands between them, and none of them is put in
parentheses.  What that text reads as is therefore settled by the bars in it:

* `allOf`: the node that composes its members;
* `typeText_allOf_iff`: it has a type iff each member has, and then that is their types with ampersands
  between them;
* `intersects_iff_of_plainlyNamed`: the whole is the intersection of plainly named members iff none of them
  is a union;
* `allOf_reading`: what the type of an `allOf` reads as.
-/

namespace ApiView
namespace TypeText

open Place

/-- The node that is all of some schemas. -/
def allOf (members : List Value) : Value :=
  .map [(.str "allOf", .list members)]

/-- The types of several schemas. -/
def HaveTypes (members : List Value) (types : List String) : Prop :=
  List.Forall₂ (fun m type => typeText m = .ok type) members types

variable {members : List Value} {types : List String}

theorem HaveTypes.ne_nil (h : HaveTypes members types) (hne : members ≠ []) : types ≠ [] := by
  rintro rfl
  exact hne (List.forall₂_nil_right_iff.1 h)

theorem form_allOf (hne : members ≠ []) :
    form [(.str "allOf", .list members)] = .composition " & " members := by
  obtain ⟨m, rest, rfl⟩ := List.exists_cons_of_ne_nil hne
  rfl

/-- A node that is all of some schemas has a type iff each of them has. -/
theorem typeText_allOf_iff (hne : members ≠ []) {whole : String} :
    typeText (allOf members) = .ok whole ↔
      ∃ types, HaveTypes members types ∧ " & ".intercalate types = whole := by
  have hform := form_allOf hne
  have hstructure : (form [(.str "allOf", .list members)]).isStructure = true := by
    rw [hform]
    rfl
  have hnull : ∀ type,
      withNull (Entries.member [(.str "allOf", .list members)] "nullable").isTrue type = type :=
    fun _ => rfl
  rw [allOf, typeText_of_structure hstructure, structureText_of_composition hform]
  unfold HaveTypes
  simp only [hnull]
  rw [← joined_eq_ok_iff]
  simp only [bind_eq_ok_iff, Except.ok.injEq, exists_eq_right]

/-- The types of plainly named schemas are closed. -/
theorem isClosed_of_plainlyNamed (h : HaveTypes members types)
    (hplain : ∀ m ∈ members, PlainlyNamed m) : ∀ type ∈ types, IsClosed type.toList := by
  induction h with
  | nil =>
      exact List.forall_mem_nil _
  | cons htype _ ih =>
      obtain ⟨hm, hrest⟩ := List.forall_mem_cons.1 hplain
      exact List.forall_mem_cons.2 ⟨(partedIff_typeText hm htype).closed, ih hrest⟩

/-- Among the types of plainly named schemas the unions are those of unions. -/
theorem forall_readsAsUnion_iff (h : HaveTypes members types)
    (hplain : ∀ m ∈ members, PlainlyNamed m) :
    (∀ type ∈ types, ¬ ReadsAsUnion type) ↔ ∀ m ∈ members, ¬ IsUnion m := by
  induction h with
  | nil =>
      simp
  | cons htype _ ih =>
      obtain ⟨hm, hrest⟩ := List.forall_mem_cons.1 hplain
      rw [List.forall_mem_cons, List.forall_mem_cons, ih hrest,
        (partedIff_typeText hm htype).readsAsUnion_iff]

/-- The types of plainly named schemas are intersected iff none of the schemas is a union. -/
theorem intersects_iff_of_plainlyNamed (h : HaveTypes members types) (hne : members ≠ [])
    (hplain : ∀ m ∈ members, PlainlyNamed m) :
    Intersects (" & ".intercalate types) types ↔ ∀ m ∈ members, ¬ IsUnion m := by
  have hclosed := isClosed_of_plainlyNamed h hplain
  rw [intersects_iff (fun type hmem => (hclosed type hmem).walk 0) (h.ne_nil hne),
    forall_readsAsUnion_iff h hplain]

/-- The type of an `allOf` is the types of its members with ampersands between them, in order.  Where each
type closes what it opens, only the neighbours at each ampersand are intersected, and the whole is the
intersection of the types iff no type is a union.  If nothing opens or closes anything in the names that get
into them, the types do close what they open, and the whole is the intersection iff no member asks for a
union outside of arrays and objects. -/
theorem allOf_reading (members : List Value) (hne : members ≠ []) :
    (∀ whole, typeText (allOf members) = .ok whole ↔
      ∃ types, HaveTypes members types ∧ " & ".intercalate types = whole) ∧
    ∀ types, HaveTypes members types →
      ((∀ type ∈ types, start.walk type.toList = start) →
        reading (" & ".intercalate types) = (types.map reading).foldr glue [] ∧
          (Intersects (" & ".intercalate types) types ↔ ∀ type ∈ types, ¬ ReadsAsUnion type)) ∧
      ((∀ m ∈ members, PlainlyNamed m) →
        (∀ type ∈ types, start.walk type.toList = start) ∧
          (Intersects (" & ".intercalate types) types ↔ ∀ m ∈ members, ¬ IsUnion m)) := by
  refine ⟨fun whole => typeText_allOf_iff hne, fun types htypes => ⟨fun hclosed => ?_, fun hplain => ?_⟩⟩
  · have htypes' := htypes.ne_nil hne
    exact ⟨reading_intersection hclosed htypes', intersects_iff hclosed htypes'⟩
  · have hclosed := isClosed_of_plainlyNamed htypes hplain
    exact ⟨fun type hmem => (hclosed type hmem).walk 0,
      intersects_iff_of_plainlyNamed htypes hne hplain⟩

/-! ## Two lists of members -/

/-- A reference, and two schemas with unions inside of brackets. -/
def bracketedMembers : List Value :=
  [.map [(.str "$ref", .str "#/definitions/A")],
    .map [(.str "type", .str "array"),
      (.str "items", .map [(.str "enum", .list [.str "a|b", .str "c"])])],
    .map [(.str "properties", .map [(.str "x",
      .map [(.str "type", .str "string"), (.str "nullable", .scalar (.bool true))])])]]

def bracketedTypes : List String :=
  ["A", "Array<\"a|b\" | \"c\">", "\x7b 'x'?: string | null \x7d"]

theorem bracketedMembers_haveTypes : HaveTypes bracketedMembers bracketedTypes :=
  .cons (by decide +kernel) (.cons (by decide +kernel) (.cons (by decide +kernel) .nil))

theorem bracketedMembers_plainlyNamed : ∀ m ∈ bracketedMembers, PlainlyNamed m := by
  have hleaf : ∀ part ∈ ([] : List Value), PlainlyNamed part := List.forall_mem_nil _
  have hreference : PlainlyNamed (.map [(.str "$ref", .str "#/definitions/A")]) :=
    .node (by decide +kernel) hleaf
  have hvalues : PlainlyNamed (.map [(.str "enum", .list [.str "a|b", .str "c"])]) :=
    .node (by decide +kernel) hleaf
  have hnullable : PlainlyNamed (.map [(.str "type", .str "string"),
      (.str "nullable", .scalar (.bool true))]) :=
    .node (by decide +kernel) hleaf
  exact List.forall_mem_cons.2 ⟨hreference, List.forall_mem_cons.2
    ⟨.node (by decide +kernel) (List.forall_mem_cons.2 ⟨hvalues, hleaf⟩), List.forall_mem_cons.2
      ⟨.node (by decide +kernel) (List.forall_mem_cons.2 ⟨hnullable, hleaf⟩), hleaf⟩⟩⟩

theorem bracketedMembers_allOf_reading :
    bracketedMembers ≠ [] ∧ HaveTypes bracketedMembers bracketedTypes ∧
      (∀ m ∈ bracketedMembers, PlainlyNamed m) ∧
      typeText (allOf bracketedMembers) = .ok (" & ".intercalate bracketedTypes) ∧
      Intersects (" & ".intercalate bracketedTypes) bracketedTypes ∧
      ∀ m ∈ bracketedMembers, ¬ IsUnion m := by
  have hne : bracketedMembers ≠ [] := List.cons_ne_nil _ _
  have hunions : ∀ type ∈ bracketedTypes, ¬ ReadsAsUnion type := by
    unfold ReadsAsUnion
    decide +kernel
  obtain ⟨hwhole, hreading⟩ := allOf_reading bracketedMembers hne
  obtain ⟨hclosed, hplain⟩ := hreading bracketedTypes bracketedMembers_haveTypes
  obtain ⟨hwalk, hiff⟩ := hplain bracketedMembers_plainlyNamed
  have hintersects := (hclosed hwalk).2.2 hunions
  exact ⟨hne, bracketedMembers_haveTypes, bracketedMembers_plainlyNamed,
    (hwhole _).2 ⟨bracketedTypes, bracketedMembers_haveTypes, rfl⟩, hintersects,
    hiff.1 hintersects⟩

/-- A reference and an enumeration. -/
def literalMembers : List Value :=
  [.map [(.str "$ref", .str "#/definitions/A")], .map [(.str "enum", .list [.str "a", .str "b"])]]

/-- The ampersand takes the first literal only, so the second one is not intersected with anything. -/
theorem literalMembers_not_intersected :
    HaveTypes literalMembers ["A", "\"a\" | \"b\""] ∧
      typeText (allOf literalMembers) = .ok "A & \"a\" | \"b\"" ∧
      reading "A & \"a\" | \"b\"" = [["A", "\"a\""], ["\"b\""]] ∧
      ¬ Intersects "A & \"a\" | \"b\"" ["A", "\"a\" | \"b\""] := by
  refine ⟨.cons (by decide +kernel) (.cons (by decide +kernel) .nil), by decide +kernel,
    by decide +kernel, ?_⟩
  unfold Intersects
  decide +kernel

end TypeText
end ApiView
