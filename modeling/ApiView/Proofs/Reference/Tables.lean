import Mathlib.Data.List.Basic
import ApiView.Proofs.Members
import ApiView.Reference.Resolve

/-!
# Tables — pointers into a table

A pointer that starts with the path of a table names an entry of that table or nothing at all.  This
file reads such pointers:

* `fieldsAt_eq_splitOn`: fields are what the library splits a text into;
* `parse_table`: the segments of a pointer into a table;
* `writtenName?`: the name that the rest of the pointer stands for;
* `resolve_table`: what the pointer resolves to, up to the reason why it does not;
* `follow_of_inline`, `toOption_follow_of_stuck`, `follow_succ`: one step of a chain of references.
-/

namespace ApiView

/-! ## Fields -/

theorem Text.fieldsAt_eq_splitOn (separator : Char) (cs : List Char) :
    fieldsAt separator cs = cs.splitOn separator := by
  induction cs with
  | nil =>
      rfl
  | cons c rest ih =>
      rw [List.splitOn_cons_eq_if_modifyHead, fieldsAt, ih]
      by_cases hc : (c == separator) = true
      · simp [hc]
      · cases hfields : rest.splitOn separator with
        | nil =>
            exact absurd hfields (List.splitOn_ne_nil separator rest)
        | cons field fields =>
            simp [hc]

namespace Reference

variable {kind : Kind} {path : List String}

/-! ## Paths of tables -/

/-- The names in the paths of tables are written as they are. -/
theorem decodeSegment_of_mem_tables :
    path ∈ kind.tables → ∀ name ∈ path,
      name ≠ "" ∧ '/' ∉ name.toList ∧ decodeSegment name.toList = name.toList := by
  cases kind <;> revert path <;> decide

theorem toList_tableText :
    path ∈ kind.tables →
      (tableText path).toList = '#' :: '/' :: path.flatMap fun name => name.toList ++ ['/'] := by
  cases kind <;> revert path <;> decide

theorem length_of_mem_tables : path ∈ kind.tables → 0 < path.length := by
  cases kind <;> revert path <;> decide

/-- No table lies inside another one. -/
theorem append_notMem_tables {more : List String} :
    path ∈ kind.tables → more ≠ [] → path ++ more ∉ kind.tables := by
  intro hpath hmore
  cases more with
  | nil =>
      exact absurd rfl hmore
  | cons name rest =>
      cases kind <;> simp [Kind.tables] at hpath ⊢ <;> rcases hpath with rfl | rfl | rfl <;> simp

/-! ## Pointers into a table -/

/-- Splitting what stands behind the path of a table splits off the names of the path. -/
theorem splitOn_path {names : List String} (hplain : ∀ name ∈ names, '/' ∉ name.toList)
    (written : List Char) :
    ((names.flatMap fun name => name.toList ++ ['/']) ++ written).splitOn '/' =
      names.map String.toList ++ written.splitOn '/' := by
  induction names with
  | nil =>
      rfl
  | cons name rest ih =>
      have hhead := hplain name (List.mem_cons_self ..)
      have hrest := ih fun name' hmem => hplain name' (List.mem_cons_of_mem _ hmem)
      simp only [List.flatMap_cons, List.append_assoc, List.cons_append, List.nil_append,
        List.map_cons]
      rw [List.splitOn_append_cons_self_of_not_mem hhead, hrest]

/-- A pointer into a table has the path of the table in front of its other segments. -/
theorem parse_table (hpath : path ∈ kind.tables) (written : String) :
    Pointer.parse (tableText path ++ written) =
      if (written.toList.splitOn '/').any List.isEmpty then
        .error (.reference (tableText path ++ written) .emptySegment)
      else
        .ok (path ++ (written.toList.splitOn '/').map fun field =>
          String.ofList (decodeSegment field)) := by
  have hnames := decodeSegment_of_mem_tables hpath
  have hempty : (path.map String.toList).any List.isEmpty = false := by
    simpa using fun name hmem => (hnames name hmem).1
  have hdecoded : (path.map String.toList).map (fun field => String.ofList (decodeSegment field)) =
      path := by
    rw [List.map_map]
    refine (List.map_congr_left fun name hmem => ?_).trans (List.map_id path)
    simp [(hnames name hmem).2.2]
  unfold Pointer.parse
  rw [String.toList_append, toList_tableText hpath]
  simp only [List.cons_append, Text.fieldsAt_eq_splitOn]
  rw [splitOn_path fun name hmem => (hnames name hmem).2.1]
  simp only [List.any_append, hempty, Bool.false_or, List.map_append, hdecoded]

/-- The name that stands behind the path of a table: one segment, which is not empty, as it is meant. -/
def writtenName? (written : String) : Option String :=
  if written = "" ∨ '/' ∈ written.toList then none
  else some (String.ofList (decodeSegment written.toList))

theorem toOption_asNode (pointer : String) (v : Value) :
    (asNode pointer v).toOption = v.entries? := by
  cases v <;> rfl

/-- The mapping that a table has under a name, if there is one. -/
theorem toOption_resolveIn {document : Value} {pointer name : String} (hpath : path ∈ kind.tables) :
    (resolveIn document kind pointer path name).toOption =
      (table? document path).bind fun entries => (entries.member? name).bind Value.entries? := by
  rw [resolveIn, if_pos (List.contains_iff_mem.2 hpath)]
  cases table? document path with
  | none =>
      rfl
  | some entries =>
      cases hmember : entries.member? name with
      | none =>
          simp [hmember, Except.toOption]
      | some v =>
          simp [hmember, toOption_asNode]

theorem toOption_resolveIn_of_notMem {document : Value} {pointer name : String} :
    path ∉ kind.tables → (resolveIn document kind pointer path name).toOption = none := by
  intro hpath
  rw [resolveIn, if_neg fun hmem => hpath (List.contains_iff_mem.1 hmem)]
  rfl

/-- A pointer of several segments is looked up in the table that all but the last one lead to. -/
theorem resolve_of_parse {document : Value} {pointer : String} {segments : List String}
    (hparse : Pointer.parse pointer = .ok segments) (hseveral : 1 < segments.length) :
    resolve document kind pointer =
      resolveIn document kind pointer segments.dropLast (segments.getLastD "") := by
  unfold resolve
  rw [hparse]
  match segments with
  | [] =>
      simp at hseveral
  | [name] =>
      simp at hseveral
  | _ :: _ :: _ =>
      rfl

/-- A pointer into a table resolves to the mapping that the table has under the name behind its path,
and to nothing if there is no such name, table or mapping. -/
theorem resolve_table (document : Value) (hpath : path ∈ kind.tables) (written : String) :
    (resolve document kind (tableText path ++ written)).toOption =
      (writtenName? written).bind fun name =>
        (table? document path).bind fun entries => (entries.member? name).bind Value.entries? := by
  have hparse := parse_table hpath written
  have hlength := length_of_mem_tables hpath
  by_cases hslash : '/' ∈ written.toList
  · have hname : writtenName? written = none := if_pos (Or.inr hslash)
    rw [hname, Option.bind_none]
    -- More than one segment is left, and no table lies inside another one.
    rcases List.append_of_mem hslash with ⟨before, after, hsplit⟩
    rw [hsplit, List.splitOn_append_cons_self] at hparse
    split at hparse
    · unfold resolve
      rw [hparse]
      rfl
    · have hbefore := List.length_pos_iff.2 (List.splitOn_ne_nil '/' before)
      rw [List.map_append, ← List.append_assoc] at hparse
      rw [resolve_of_parse hparse (by simp; omega), List.dropLast_append_of_ne_nil (by simp),
        List.append_assoc]
      exact toOption_resolveIn_of_notMem (append_notMem_tables hpath (by simp))
  · rw [List.splitOn_eq_singleton hslash, List.map_singleton] at hparse
    by_cases hwritten : written = ""
    · -- Nothing behind the path is an empty segment.
      have hname : writtenName? written = none := if_pos (Or.inl hwritten)
      rw [hname, Option.bind_none]
      subst hwritten
      unfold resolve
      rw [hparse]
      rfl
    · have hname : writtenName? written = some (String.ofList (decodeSegment written.toList)) :=
        if_neg (by simp [hwritten, hslash])
      rw [hname, Option.bind_some]
      rw [if_neg (by simpa using hwritten)] at hparse
      rw [resolve_of_parse hparse (by simpa using hlength), List.dropLast_concat,
        List.getLastD_concat, toOption_resolveIn hpath]

/-! ## Chains of references -/

section Follow

variable {document node : Value} {seen : List String} {fuel : Nat} {pointer : String}

/-- A node without a pointer is where following ends. -/
theorem follow_of_inline : pointer? node = none → follow document kind seen fuel node = .ok node := by
  intro hpointer
  unfold follow
  rw [hpointer]

/-- A chain that comes back to a pointer, or that is too long, has no end. -/
theorem toOption_follow_of_stuck :
    pointer? node = some pointer → seen.contains pointer = true ∨ fuel = 0 →
      (follow document kind seen fuel node).toOption = none := by
  intro hpointer hstuck
  unfold follow
  rw [hpointer]
  rcases hstuck with hseen | rfl
  · simp only [hseen, if_true]
    rfl
  · by_cases hseen : seen.contains pointer = true
    · simp only [hseen, if_true]
      rfl
    · simp only [hseen]
      rfl

/-- A new pointer is followed on to its entry. -/
theorem follow_succ :
    pointer? node = some pointer → seen.contains pointer = false →
      follow document kind seen (fuel + 1) node =
        resolve document kind pointer >>= fun entries =>
          follow document kind (pointer :: seen) fuel (.map entries) := by
  intro hpointer hfresh
  conv_lhs => unfold follow
  simp only [hpointer, hfresh, Bool.false_eq_true, if_false]

end Follow

end Reference
end ApiView
