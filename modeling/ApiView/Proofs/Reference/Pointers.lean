import ApiView.Proofs.Reference.Chains
import ApiView.Proofs.Reference.Tables

/-!
# Pointers — what a pointer addresses

A pointer is `#/` with segments behind it.  The last one names an entry, the others lead to a table:

* `parse_root`: the segments of a pointer;
* `exists_segment_of_decoded`: segments that mean the path of a table are written as that path;
* `Addresses`: a mapping in a table of its kind, addressed by the path of the table and a name;
* `AddressesAlone`: a mapping that is found by the name of a single segment;
* `resolve_pointer_iff`: a pointer resolves to what it addresses in one of the two ways, and to nothing
  else.
-/

namespace ApiView
namespace Reference

variable {document : Value} {kind : Kind} {path : List String} {rest : String} {entries : Entries}

/-! ## Segments -/

/-- A name without escapes in it is written in one way only. -/
theorem eq_of_decodeSegment {written name : List Char} (hslash : '/' ∉ name) (htilde : '~' ∉ name) :
    decodeSegment written = name → written = name := by
  intro h
  induction written using decodeSegment.induct generalizing name with
  | case1 =>
      exact h
  | case2 rest _ =>
      exact absurd (h ▸ List.mem_cons_self) hslash
  | case3 rest _ =>
      exact absurd (h ▸ List.mem_cons_self) htilde
  | case4 c rest hone hzero ih =>
      rw [decodeSegment.eq_4 c rest hone hzero] at h
      subst h
      rw [← ih (fun hmem => hslash (List.mem_cons_of_mem c hmem))
        (fun hmem => htilde (List.mem_cons_of_mem c hmem)) rfl]

theorem tilde_notMem_of_mem_tables :
    path ∈ kind.tables → ∀ name ∈ path, '~' ∉ name.toList := by
  cases kind <;> revert path <;> decide

/-- The segments of a pointer, decoded. -/
theorem parse_root (rest : String) :
    Pointer.parse ("#/" ++ rest) =
      if (rest.toList.splitOn '/').any List.isEmpty then
        .error (.reference ("#/" ++ rest) .emptySegment)
      else
        .ok ((rest.toList.splitOn '/').map fun field => String.ofList (decodeSegment field)) := by
  have htext : ("#/" ++ rest).toList = '#' :: '/' :: rest.toList := String.toList_append
  unfold Pointer.parse
  rw [htext]
  simp only [Text.fieldsAt_eq_splitOn]

/-- Segments that mean the path of a table are written as that path. -/
theorem fields_of_decoded {names : List String} {fields : List (List Char)}
    (hplain : ∀ name ∈ names, '/' ∉ name.toList ∧ '~' ∉ name.toList) :
    (fields.map fun field => String.ofList (decodeSegment field)) = names →
      fields = names.map String.toList := by
  intro h
  subst h
  rw [List.map_map]
  refine ((List.map_congr_left fun field hfield => ?_).trans (List.map_id fields)).symm
  obtain ⟨hslash, htilde⟩ := hplain _ (List.mem_map_of_mem hfield)
  rw [String.toList_ofList] at hslash htilde
  rw [Function.comp_apply, String.toList_ofList, id]
  exact (eq_of_decodeSegment hslash htilde rfl).symm

/-- A pointer of several segments, of which all but the last one mean the path of a table, is written as
that path with a segment behind it. -/
theorem exists_segment_of_decoded (hpath : path ∈ kind.tables)
    (hdecoded : ((rest.toList.splitOn '/').map fun field =>
      String.ofList (decodeSegment field)).dropLast = path) :
    ∃ segment, "#/" ++ rest = tableText path ++ segment := by
  have hne : rest.toList.splitOn '/' ≠ [] := List.splitOn_ne_nil '/' rest.toList
  have hsplit := List.dropLast_append_getLast hne
  generalize (rest.toList.splitOn '/').getLast hne = last at hsplit
  have hnames : ∀ name ∈ path, '/' ∉ name.toList ∧ '~' ∉ name.toList := fun name hmem =>
    ⟨(decodeSegment_of_mem_tables hpath name hmem).2.1, tilde_notMem_of_mem_tables hpath name hmem⟩
  rw [← List.map_dropLast] at hdecoded
  rw [fields_of_decoded hnames hdecoded] at hsplit
  -- Putting the segments together again gives the text behind the path of the table.
  have hjoined : ∀ names : List String, ['/'].intercalate (names.map String.toList ++ [last]) =
      (names.flatMap fun name => name.toList ++ ['/']) ++ last := by
    intro names
    induction names with
    | nil =>
        exact List.intercalate_singleton
    | cons name more ih =>
        obtain ⟨field, fields, hfields⟩ :=
          List.exists_cons_of_ne_nil (List.append_ne_nil_of_right_ne_nil
            (more.map String.toList) (List.cons_ne_nil last []))
        rw [List.map_cons, List.cons_append, hfields, List.intercalate_cons_cons, ← hfields, ih]
        simp
  refine ⟨String.ofList last, String.toList_inj.1 ?_⟩
  rw [String.toList_append, String.toList_append, toList_tableText hpath, String.toList_ofList]
  have hrest : ['/'].intercalate (rest.toList.splitOn '/') = rest.toList :=
    List.intercalate_splitOn '/'
  rw [← hsplit, hjoined] at hrest
  rw [← hrest, String.toList_ofList]
  rfl

/-! ## What a pointer addresses -/

/-- A pointer addresses a mapping: it is the path of a table of its kind with one segment behind it, which
is not empty, and the document has that table with the mapping under the name that the segment means. -/
def Addresses (document : Value) (kind : Kind) (pointer : String) (entries : Entries) : Prop :=
  ∃ path ∈ kind.tables, ∃ segment : String, ∃ table : Entries,
    pointer = tableText path ++ segment ∧ segment ≠ "" ∧ '/' ∉ segment.toList ∧
      table? document path = some table ∧
        table.member? (String.ofList (decodeSegment segment.toList)) = some (.map entries)

/-- A single segment, which is not empty, finds a mapping: the first table of its kind that has the name
that the segment means has the mapping under it. -/
def AddressesAlone (document : Value) (kind : Kind) (segment : String) (entries : Entries) : Prop :=
  segment ≠ "" ∧ '/' ∉ segment.toList ∧
    (kind.tables.findSome? fun path =>
      (table? document path).bind (·.member? (String.ofList (decodeSegment segment.toList)))) =
        some (.map entries)

/-- A segment names an entry if it is neither empty nor has a slash in it. -/
theorem writtenName?_eq_some_iff {segment name : String} :
    writtenName? segment = some name ↔
      segment ≠ "" ∧ '/' ∉ segment.toList ∧ String.ofList (decodeSegment segment.toList) = name := by
  unfold writtenName?
  by_cases h : segment = "" ∨ '/' ∈ segment.toList
  · rw [if_pos h]
    exact ⟨nofun, fun ⟨hne, hslash, _⟩ => (h.elim hne hslash).elim⟩
  · rw [if_neg h, Option.some_inj]
    rw [not_or] at h
    exact ⟨fun hname => ⟨h.1, h.2, hname⟩, fun ⟨_, _, hname⟩ => hname⟩

theorem toOption_eq_some_iff {x : Except Failure Entries} :
    x.toOption = some entries ↔ x = .ok entries := by
  cases x <;> simp [Except.toOption]

/-- A pointer into a table resolves to what it addresses there. -/
theorem resolve_table_iff (hpath : path ∈ kind.tables) (segment : String) :
    resolve document kind (tableText path ++ segment) = .ok entries ↔
      segment ≠ "" ∧ '/' ∉ segment.toList ∧ ∃ table, table? document path = some table ∧
        table.member? (String.ofList (decodeSegment segment.toList)) = some (.map entries) := by
  rw [← toOption_eq_some_iff, resolve_table document hpath segment]
  simp only [Option.bind_eq_some_iff, writtenName?_eq_some_iff, Value.entries?_eq_some_iff]
  constructor
  · rintro ⟨name, ⟨hne, hslash, rfl⟩, table, htable, v, hv, rfl⟩
    exact ⟨hne, hslash, table, htable, hv⟩
  · rintro ⟨hne, hslash, table, htable, hv⟩
    exact ⟨_, ⟨hne, hslash, rfl⟩, table, htable, _, hv, rfl⟩

theorem asNode_eq_ok_iff {pointer : String} {v : Value} :
    asNode pointer v = .ok entries ↔ v = .map entries := by
  cases v <;> simp [asNode]

/-- A pointer of a single segment is looked up like a bare name. -/
theorem resolve_alone_iff (hslash : '/' ∉ rest.toList) :
    resolve document kind ("#/" ++ rest) = .ok entries ↔
      AddressesAlone document kind rest entries := by
  have hparse := parse_root rest
  rw [List.splitOn_eq_singleton hslash] at hparse
  by_cases hrest : rest = ""
  · have hfails : (resolve document kind ("#/" ++ rest)).toOption = none := by
      subst hrest
      unfold resolve
      rw [hparse]
      rfl
    rw [← toOption_eq_some_iff, hfails]
    exact ⟨nofun, fun h => absurd hrest h.1⟩
  · rw [if_neg (by simpa using hrest)] at hparse
    unfold resolve AddressesAlone
    rw [hparse, ok_bind]
    simp only [List.map_singleton, resolveName]
    split
    · rename_i v hfound
      rw [hfound, asNode_eq_ok_iff, Option.some_inj]
      exact ⟨fun hv => ⟨hrest, hslash, hv⟩, fun h => h.2.2⟩
    · rename_i hfound
      rw [hfound]
      exact ⟨nofun, fun h => nomatch h.2.2⟩

/-- A pointer of several segments resolves to what it addresses. -/
theorem resolve_several_iff (hslash : '/' ∈ rest.toList) :
    resolve document kind ("#/" ++ rest) = .ok entries ↔
      Addresses document kind ("#/" ++ rest) entries := by
  constructor
  · intro h
    -- The segments in front of the last one are the path of a table, so the pointer is written that way.
    have hparse := parse_root rest
    obtain ⟨before, after, hsplit⟩ := List.append_of_mem hslash
    have hfields : 1 < (rest.toList.splitOn '/').length := by
      rw [hsplit, List.splitOn_append_cons_self, List.length_append]
      have hbefore := List.length_pos_iff.2 (List.splitOn_ne_nil '/' before)
      have hafter := List.length_pos_iff.2 (List.splitOn_ne_nil '/' after)
      omega
    split at hparse
    · unfold resolve at h
      rw [hparse] at h
      cases h
    · have hlooked : resolve document kind ("#/" ++ rest) = _ :=
        resolve_of_parse hparse (by rwa [List.length_map])
      rw [h] at hlooked
      by_cases hpath : ((rest.toList.splitOn '/').map fun field =>
          String.ofList (decodeSegment field)).dropLast ∈ kind.tables
      · obtain ⟨segment, hpointer⟩ := exists_segment_of_decoded hpath rfl
        rw [hpointer] at h ⊢
        obtain ⟨hne, hname, table, htable, hv⟩ := (resolve_table_iff hpath segment).1 h
        exact ⟨_, hpath, segment, table, rfl, hne, hname, htable, hv⟩
      · have hlost := congrArg Except.toOption hlooked
        rw [toOption_resolveIn_of_notMem hpath] at hlost
        cases hlost
  · rintro ⟨path, hpath, segment, table, hpointer, hne, hname, htable, hv⟩
    rw [hpointer]
    exact (resolve_table_iff hpath segment).2 ⟨hne, hname, table, htable, hv⟩

/-- What addresses an entry of a table has more than one segment. -/
theorem slash_of_addresses (h : Addresses document kind ("#/" ++ rest) entries) :
    '/' ∈ rest.toList := by
  obtain ⟨path, hpath, segment, _, hpointer, _⟩ := h
  have htext := congrArg String.toList hpointer
  rw [String.toList_append, String.toList_append, toList_tableText hpath] at htext
  have hrest : rest.toList =
      (path.flatMap fun name => name.toList ++ ['/']) ++ segment.toList := by
    simpa using htext
  obtain ⟨name, hname⟩ := List.exists_mem_of_length_pos (length_of_mem_tables hpath)
  rw [hrest]
  refine List.mem_append_left _ (List.mem_flatMap.2 ⟨name, hname, ?_⟩)
  exact List.mem_append_right _ (List.mem_singleton_self '/')

/-- A pointer resolves to a mapping iff it addresses it, in a table or by a single segment; otherwise the
failure is put down to the pointer. -/
theorem resolve_pointer_iff (document : Value) (kind : Kind) (rest : String) :
    (∀ entries, resolve document kind ("#/" ++ rest) = .ok entries ↔
      Addresses document kind ("#/" ++ rest) entries ∨ AddressesAlone document kind rest entries) ∧
    ((∃ entries, resolve document kind ("#/" ++ rest) = .ok entries) ∨
      ∃ fault, resolve document kind ("#/" ++ rest) = .error (.reference ("#/" ++ rest) fault)) := by
  constructor
  · intro entries
    by_cases hslash : '/' ∈ rest.toList
    · rw [resolve_several_iff hslash]
      exact ⟨.inl, fun h => h.resolve_right fun halone => halone.2.1 hslash⟩
    · rw [resolve_alone_iff hslash]
      exact ⟨.inr, fun h => h.resolve_left fun haddress => hslash (slash_of_addresses haddress)⟩
  · cases hresolve : resolve document kind ("#/" ++ rest) with
    | ok entries =>
        exact .inl ⟨entries, rfl⟩
    | error e =>
        obtain ⟨fault, rfl⟩ := fault_of_resolve hresolve
        exact .inr ⟨fault, rfl⟩

/-- A document with a single parameter to share. -/
def limitDocument : Value :=
  .object [("parameters", .object [("limit", .object [("name", .str "limit")])])]

/-- A pointer that leads into no table may resolve all the same. -/
theorem limitDocument_resolves_alone :
    ¬ ∀ entries, resolve limitDocument .parameter "#/limit" = .ok entries ↔
      Addresses limitDocument .parameter "#/limit" entries := by
  intro hall
  have hresolve : resolve limitDocument .parameter ("#/" ++ "limit") =
      .ok [(.str "name", .str "limit")] := by
    decide +kernel
  have haddress := (hall _).1 hresolve
  have hslash : '/' ∈ "limit".toList := slash_of_addresses haddress
  exact absurd hslash (by decide)

end Reference
end ApiView
