import ApiView.Proofs.Reference.Escapes

/-!
# Bare names — the short form of a pointer

A shared node may be referred to by its name alone.  Names and pointers are looked up in different ways:
a name is taken as it stands and asked of one table after the other, a pointer is taken apart and says
which table it means.  This file shows that a name is short for one pointer:

* `IsBare`: the texts that are names and no pointers;
* `HasEntry`, `IsFirst`: the entry of a table under a name, and the first one that the tables of a kind
  have;
* `qualified`: the pointer to an entry of a table;
* `resolve_bare_of_first`, `resolve_bare_of_none`, `resolve_qualified`: what names and pointers resolve to;
* `bare_agrees_with_qualified`: a name resolves to what the pointer into the first table with that name
  does.
-/

namespace ApiView
namespace Reference

variable {document v : Value} {kind : Kind} {path : List String} {name : String}

/-! ## Names and entries -/

/-- A text that is a name and no pointer. -/
structure IsBare (name : String) : Prop where
  nonempty : name ≠ ""
  noSlash : '/' ∉ name.toList
  noHash : name.toList.head? ≠ some '#'

/-- A document has a table at a path, which has an entry under a name. -/
def HasEntry (document : Value) (path : List String) (name : String) (v : Value) : Prop :=
  ∃ table, table? document path = some table ∧ table.member? name = some v

/-- The table at a path is the first one of a kind that has a name, and this is its entry. -/
structure IsFirst (document : Value) (kind : Kind) (name : String) (path : List String) (v : Value) :
    Prop where
  entry : HasEntry document path name v
  first : ∃ before after, kind.tables = before ++ path :: after ∧
    ∀ other ∈ before, ∀ w, ¬ HasEntry document other name w

/-- The pointer to the entry that a table has under a name. -/
def qualified (path : List String) (name : String) : String :=
  tableText path ++ String.ofList (encodeSegment name.toList)

theorem hasEntry_iff :
    HasEntry document path name v ↔ (table? document path).bind (·.member? name) = some v :=
  Option.bind_eq_some_iff.symm

theorem forall_not_hasEntry_iff :
    (∀ w, ¬ HasEntry document path name w) ↔ (table? document path).bind (·.member? name) = none := by
  simp only [hasEntry_iff, Option.eq_none_iff_forall_ne_some, ne_eq]

/-! ## What names resolve to -/

/-- A name has itself for its only segment, whatever looks like an escape in it. -/
theorem parse_bare (hname : IsBare name) : Pointer.parse name = .ok [name] := by
  obtain ⟨hnonempty, hslash, hhash⟩ := hname
  unfold Pointer.parse
  split
  · rename_i hnil
    exact absurd (String.toList_inj.1 hnil) hnonempty
  · rename_i rest hpointer
    rw [hpointer] at hhash
    exact absurd rfl hhash
  · rename_i c rest _ hcons
    rw [hcons] at hslash hhash
    have hc : c ≠ '#' := by
      rintro rfl
      exact hhash rfl
    rw [if_neg (by simpa [hc] using hslash)]

theorem resolve_bare (hname : IsBare name) :
    resolve document kind name = resolveName document kind name name := by
  rw [resolve, parse_bare hname]
  rfl

/-- A name resolves to the first entry under it, if that is a mapping. -/
theorem resolve_bare_of_first (hname : IsBare name) (h : IsFirst document kind name path v) :
    resolve document kind name = asNode name v := by
  obtain ⟨hentry, before, after, htables, hbefore⟩ := h
  have hfound : (kind.tables.findSome? fun path => (table? document path).bind (·.member? name)) =
      some v :=
    List.findSome?_eq_some_iff.2
      ⟨before, path, after, htables, hasEntry_iff.1 hentry,
        fun other hother => forall_not_hasEntry_iff.1 (hbefore other hother)⟩
  rw [resolve_bare hname, resolveName, hfound]

/-- A name that no table has resolves to nothing. -/
theorem resolve_bare_of_none (hname : IsBare name)
    (h : ∀ path ∈ kind.tables, ∀ w, ¬ HasEntry document path name w) :
    resolve document kind name = .error (.reference name (.noneShared kind.word name)) := by
  have hnone : (kind.tables.findSome? fun path => (table? document path).bind (·.member? name)) =
      none :=
    List.findSome?_eq_none_iff.2 fun path hpath => forall_not_hasEntry_iff.1 (h path hpath)
  rw [resolve_bare hname, resolveName, hnone]

/-! ## What pointers resolve to -/

/-- The segments of a qualified pointer are the path of its table and the name, as it was before it was
written. -/
theorem parse_qualified (hpath : path ∈ kind.tables) (hnonempty : name ≠ "") :
    Pointer.parse (qualified path name) = .ok (path ++ [name]) := by
  have hslash := (encodeSegment_spec name.toList).1
  have hfull : encodeSegment name.toList ≠ [] := encodeSegment_toList_ne_nil hnonempty
  rw [qualified, parse_table hpath, String.toList_ofList, List.splitOn_eq_singleton hslash,
    if_neg (by simpa using hfull)]
  simp [decodeSegment_encodeSegment]

/-- A qualified pointer resolves to the entry that it names, if that is a mapping. -/
theorem resolve_qualified (hpath : path ∈ kind.tables) (hnonempty : name ≠ "")
    (hentry : HasEntry document path name v) :
    resolve document kind (qualified path name) = asNode (qualified path name) v := by
  obtain ⟨table, htable, hmember⟩ := hentry
  have hseveral : 1 < (path ++ [name]).length := by
    simpa using length_of_mem_tables hpath
  rw [resolve_of_parse (parse_qualified hpath hnonempty) hseveral, List.dropLast_concat,
    List.getLastD_concat, resolveIn, if_pos (List.contains_iff_mem.2 hpath), htable]
  simp only [hmember]

/-! ## Agreement -/

/-- A name resolves to the same as the pointer to its entry in the first table of the kind that has one:
to that entry if it is a mapping, and otherwise to a failure for the same reason, whatever the tables
behind it have.  A name that no table has resolves to nothing. -/
theorem bare_agrees_with_qualified (document : Value) (kind : Kind) {name : String}
    (hname : IsBare name) :
    (∀ path v, IsFirst document kind name path v →
      (∀ node, v = .map node → resolve document kind name = .ok node ∧
        resolve document kind (qualified path name) = .ok node) ∧
      (v.entries? = none →
        resolve document kind name = .error (.reference name (.notAnObject v.kindName)) ∧
          resolve document kind (qualified path name) =
            .error (.reference (qualified path name) (.notAnObject v.kindName)))) ∧
    ((∀ path ∈ kind.tables, ∀ v, ¬ HasEntry document path name v) →
      resolve document kind name = .error (.reference name (.noneShared kind.word name))) := by
  refine ⟨fun path v hfirst => ?_, resolve_bare_of_none hname⟩
  -- The first table that has the name is one of the kind.
  have hpath : path ∈ kind.tables := by
    obtain ⟨before, after, htables, -⟩ := hfirst.first
    rw [htables]
    exact List.mem_append_right _ List.mem_cons_self
  rw [resolve_bare_of_first hname hfirst, resolve_qualified hpath hname.nonempty hfirst.entry]
  constructor
  · rintro node rfl
    exact ⟨rfl, rfl⟩
  · intro hleaf
    cases v with
    | map node =>
        cases hleaf
    | _ =>
        exact ⟨rfl, rfl⟩

/-- A document whose tables have names with tildes in them, and one name that they share. -/
def tildeDocument : Value :=
  .object [("parameters", .object [("both", .str "text"), ("m~n", .object [])]),
    ("components", .object [("parameters", .object
      [("both", .object []), ("m~0n", .object [("name", .str "m")])])])]

/-- A name with an escape in it is not decoded, an entry that is no mapping hides the one behind it, and
a name that is nowhere is reported as such. -/
theorem tildeDocument_bare_agrees_with_qualified :
    (resolve tildeDocument .parameter "m~0n" = .ok [(.str "name", .str "m")] ∧
      resolve tildeDocument .parameter "#/components/parameters/m~00n" =
        .ok [(.str "name", .str "m")]) ∧
    (resolve tildeDocument .parameter "both" = .error (.reference "both" (.notAnObject "str")) ∧
      resolve tildeDocument .parameter "#/parameters/both" =
        .error (.reference "#/parameters/both" (.notAnObject "str"))) ∧
    resolve tildeDocument .parameter "none" =
      .error (.reference "none" (.noneShared "parameter" "none")) := by
  have hescaped : IsFirst tildeDocument .parameter "m~0n" ["components", "parameters"]
      (.map [(.str "name", .str "m")]) := by
    refine ⟨⟨_, rfl, rfl⟩, [["parameters"]], [], rfl, ?_⟩
    simp only [forall_not_hasEntry_iff]
    decide
  have hboth : IsFirst tildeDocument .parameter "both" ["parameters"] (.str "text") :=
    ⟨⟨_, rfl, rfl⟩, [], [["components", "parameters"]], rfl, List.forall_mem_nil _⟩
  have hnone : ∀ path ∈ Kind.parameter.tables, ∀ v, ¬ HasEntry tildeDocument path "none" v := by
    simp only [forall_not_hasEntry_iff]
    decide
  have hbare : ∀ name ∈ ["m~0n", "both", "none"], IsBare name := by
    have hchecked : ∀ name ∈ ["m~0n", "both", "none"],
        name ≠ "" ∧ '/' ∉ name.toList ∧ name.toList.head? ≠ some '#' := by
      decide
    intro name hname
    obtain ⟨hnonempty, hslash, hhash⟩ := hchecked name hname
    exact ⟨hnonempty, hslash, hhash⟩
  have hfound := (bare_agrees_with_qualified tildeDocument .parameter (hbare "m~0n" (by decide))).1
    _ _ hescaped
  have hhidden := (bare_agrees_with_qualified tildeDocument .parameter (hbare "both" (by decide))).1
    _ _ hboth
  have hlost := (bare_agrees_with_qualified tildeDocument .parameter (hbare "none" (by decide))).2 hnone
  exact ⟨hfound.1 _ rfl, hhidden.2 rfl, hlost⟩

end Reference
end ApiView
