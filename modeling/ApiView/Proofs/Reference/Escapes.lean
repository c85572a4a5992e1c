import ApiView.Proofs.Reference.Pointers
import ApiView.Proofs.Text.Pieces

/-!
# Escapes — writing segments and reading a pointer undo each other

In a written segment `~1` stands for a slash and `~0` for a tilde.  A pointer that keeps to these two
escapes is the one way to write down its segments:

* `decodeSegment_eq_replaceEscape`: reading a segment is replacing one escape everywhere, and then the
  other one;
* `decodeSegment_encodeSegment`, `encodeSegment_decodeSegment`: the same for a single segment;
* `Escaped`, `WellWritten`: texts in which every tilde begins an escape, and pointers of that kind;
* `wellWritten_iff`: well-written pointers are those that a row of segments is written as;
* `parse_render_inverse`: pointers and rows of segments correspond to each other.
-/

namespace ApiView
namespace Reference

/-! ## One escape after the other -/

/-- A text with `letter` for every tilde that `mark` stands behind, from left to right. -/
def replaceEscape (mark letter : Char) : List Char → List Char
  | [] => []
  | [c] => [c]
  | c :: d :: rest =>
    if c = '~' ∧ d = mark then letter :: replaceEscape mark letter rest
    else c :: replaceEscape mark letter (d :: rest)

/-- What is not the start of an escape stays in front of the rest. -/
theorem replaceEscape_cons_of_ne {mark letter c : Char} (hc : c ≠ '~') (rest : List Char) :
    replaceEscape mark letter (c :: rest) = c :: replaceEscape mark letter rest := by
  cases rest with
  | nil =>
      rfl
  | cons d rest =>
      rw [replaceEscape, if_neg fun h => hc h.1]

/-- A letter that is put in for nothing was there before. -/
theorem head_of_replaceEscape {mark letter e : Char} {cs after : List Char} (he : e ≠ letter) :
    replaceEscape mark letter cs = e :: after → ∃ rest, cs = e :: rest := by
  intro h
  cases cs with
  | nil =>
      cases h
  | cons c rest =>
      cases rest with
      | nil =>
          cases h
          exact ⟨[], rfl⟩
      | cons d rest =>
          rw [replaceEscape] at h
          split at h
          · cases h
            exact absurd rfl he
          · cases h
            exact ⟨d :: rest, rfl⟩

/-- A tilde that begins no escape stays in front of the rest. -/
theorem replaceEscape_tilde {mark letter : Char} {rest : List Char}
    (h : ∀ after, rest ≠ mark :: after) :
    replaceEscape mark letter ('~' :: rest) = '~' :: replaceEscape mark letter rest := by
  cases rest with
  | nil =>
      rfl
  | cons d rest =>
      rw [replaceEscape, if_neg]
      rintro ⟨-, rfl⟩
      exact h rest rfl

/-- Reading a segment puts slashes in place of their escape first, and tildes afterwards.  The other
order would read the escape of a tilde with a one behind it as a slash. -/
theorem decodeSegment_eq_replaceEscape (cs : List Char) :
    decodeSegment cs = replaceEscape '0' '~' (replaceEscape '1' '/' cs) := by
  induction cs using decodeSegment.induct with
  | case1 =>
      rfl
  | case2 rest ih =>
      rw [decodeSegment, ih, replaceEscape, if_pos ⟨rfl, rfl⟩]
      exact (replaceEscape_cons_of_ne (by decide) _).symm
  | case3 rest ih =>
      have hslash : replaceEscape '1' '/' ('~' :: '0' :: rest) =
          '~' :: '0' :: replaceEscape '1' '/' rest := by
        rw [replaceEscape_tilde (by simp), replaceEscape_cons_of_ne (by decide)]
      rw [decodeSegment, ih, hslash, replaceEscape, if_pos ⟨rfl, rfl⟩]
  | case4 c rest hone hzero ih =>
      rw [decodeSegment.eq_4 c rest hone hzero, ih]
      by_cases hc : c = '~'
      · subst hc
        have hone' : ∀ after, rest ≠ '1' :: after := fun after => hone after rfl
        have hzero' : ∀ after, rest ≠ '0' :: after := fun after => hzero after rfl
        -- The tilde begins no escape, and the first replacement does not make it one.
        rw [replaceEscape_tilde hone', replaceEscape_tilde]
        intro after hafter
        obtain ⟨rest', hrest⟩ := head_of_replaceEscape (by decide) hafter
        exact hzero' rest' hrest
      · rw [replaceEscape_cons_of_ne hc, replaceEscape_cons_of_ne hc]

/-! ## Single segments -/

/-- Every tilde of a text begins an escape: a zero or a one stands behind it. -/
def Escaped (cs : List Char) : Prop :=
  ∀ before after, cs = before ++ '~' :: after → ∃ rest, after = '0' :: rest ∨ after = '1' :: rest

namespace Escaped

variable {cs ds : List Char} {c : Char}

theorem nil : Escaped [] := by
  intro before after h
  exact absurd h (by simp)

/-- A character that is no tilde may stand in front. -/
theorem cons (hc : c ≠ '~') : Escaped cs → Escaped (c :: cs) := by
  intro hcs before after h
  cases before with
  | nil =>
      cases h
      exact absurd rfl hc
  | cons d before =>
      cases h
      exact hcs before after rfl

/-- An escape may stand in front. -/
theorem escape (hc : c = '0' ∨ c = '1') : Escaped cs → Escaped ('~' :: c :: cs) := by
  intro hcs before after h
  cases before with
  | nil =>
      cases h
      rcases hc with rfl | rfl
      · exact ⟨cs, Or.inl rfl⟩
      · exact ⟨cs, Or.inr rfl⟩
  | cons d before =>
      have hne : c ≠ '~' := by
        rcases hc with rfl | rfl
        · decide
        · decide
      exact hcs.cons hne before after (List.cons.inj h).2

theorem of_cons : Escaped (c :: cs) → Escaped cs := by
  intro h before after hcs
  apply h (c :: before) after
  rw [hcs, List.cons_append]

theorem append : Escaped cs → Escaped ds → Escaped (cs ++ ds) := by
  intro hcs hds before after h
  rcases List.append_eq_append_iff.1 h with ⟨middle, hbefore, hds'⟩ | ⟨middle, hcs', hafter⟩
  · exact hds middle after hds'
  · cases middle with
    | nil =>
        exact hds [] after hafter.symm
    | cons d middle =>
        obtain ⟨rfl, rfl⟩ := List.cons.inj hafter
        obtain ⟨rest, hrest⟩ := hcs before middle hcs'
        refine ⟨rest ++ ds, ?_⟩
        rcases hrest with rfl | rfl
        · exact Or.inl rfl
        · exact Or.inr rfl

/-- No escape reaches over a slash. -/
theorem of_append_slash : Escaped (cs ++ '/' :: ds) → Escaped cs ∧ Escaped ds := by
  intro h
  constructor
  · intro before after hcs
    obtain ⟨rest, hrest⟩ := h before (after ++ '/' :: ds) (by simp [hcs])
    cases after with
    | nil =>
        exact absurd hrest (by simp)
    | cons d after =>
        refine ⟨after, ?_⟩
        rcases hrest with hrest | hrest
        · exact Or.inl (by rw [(List.cons.inj hrest).1])
        · exact Or.inr (by rw [(List.cons.inj hrest).1])
  · intro before after hds
    apply h (cs ++ '/' :: before) after
    rw [hds, List.append_assoc, List.cons_append]

/-- The segments of an escaped text are escaped. -/
theorem of_intercalate {fields : List (List Char)} :
    Escaped (['/'].intercalate fields) → ∀ field ∈ fields, Escaped field := by
  intro h
  induction fields with
  | nil =>
      intro field hfield
      cases hfield
  | cons field rest ih =>
      cases rest with
      | nil =>
          rw [List.intercalate_singleton] at h
          intro field' hfield
          rwa [List.mem_singleton.1 hfield]
      | cons next rest =>
          rw [List.intercalate_cons_cons, List.append_assoc, List.singleton_append] at h
          obtain ⟨hfield, hrest⟩ := of_append_slash h
          exact List.forall_mem_cons.2 ⟨hfield, ih hrest⟩

/-- Escaped segments make an escaped text. -/
theorem intercalate {fields : List (List Char)} :
    (∀ field ∈ fields, Escaped field) → Escaped (['/'].intercalate fields) := by
  intro h
  induction fields with
  | nil =>
      exact nil
  | cons field rest ih =>
      obtain ⟨hfield, hrest⟩ := List.forall_mem_cons.1 h
      cases rest with
      | nil =>
          rwa [List.intercalate_singleton]
      | cons next rest =>
          rw [List.intercalate_cons_cons, List.append_assoc, List.singleton_append]
          exact hfield.append ((ih hrest).cons (by decide))

end Escaped

/-- A segment is read as it was before it was written. -/
theorem decodeSegment_encodeSegment (cs : List Char) : decodeSegment (encodeSegment cs) = cs := by
  induction cs with
  | nil =>
      rfl
  | cons c rest ih =>
      by_cases htilde : c = '~'
      · subst htilde
        rw [encodeSegment, if_pos (by decide), decodeSegment, ih]
      · by_cases hslash : c = '/'
        · subst hslash
          rw [encodeSegment, if_neg (by decide), if_pos (by decide), decodeSegment, ih]
        · rw [encodeSegment, if_neg (by simpa using htilde), if_neg (by simpa using hslash),
            decodeSegment.eq_4 _ _ (fun _ h => absurd h htilde) (fun _ h => absurd h htilde), ih]

/-- An escaped segment is written as it was before it was read. -/
theorem encodeSegment_decodeSegment {cs : List Char} (hescaped : Escaped cs) (hslash : '/' ∉ cs) :
    encodeSegment (decodeSegment cs) = cs := by
  induction cs using decodeSegment.induct with
  | case1 =>
      rfl
  | case2 rest ih =>
      have hrest := ih hescaped.of_cons.of_cons fun h =>
        hslash (List.mem_cons_of_mem _ (List.mem_cons_of_mem _ h))
      rw [decodeSegment, encodeSegment, if_neg (by decide), if_pos (by decide), hrest]
  | case3 rest ih =>
      have hrest := ih hescaped.of_cons.of_cons fun h =>
        hslash (List.mem_cons_of_mem _ (List.mem_cons_of_mem _ h))
      rw [decodeSegment, encodeSegment, if_pos (by decide), hrest]
  | case4 c rest hone hzero ih =>
      have hrest := ih hescaped.of_cons fun h => hslash (List.mem_cons_of_mem _ h)
      have hne : c ≠ '/' := fun h => hslash (by rw [h]; exact List.mem_cons_self)
      have htilde : c ≠ '~' := by
        rintro rfl
        -- A tilde that is read as it is would begin no escape.
        obtain ⟨after, hafter | hafter⟩ := hescaped [] rest rfl
        · exact hzero after rfl hafter
        · exact hone after rfl hafter
      rw [decodeSegment.eq_4 c rest hone hzero, encodeSegment, if_neg (by simpa using htilde),
        if_neg (by simpa using hne), hrest]

/-- A written segment has no slash, is empty only if the segment is, and is escaped. -/
theorem encodeSegment_spec (cs : List Char) :
    '/' ∉ encodeSegment cs ∧ (encodeSegment cs = [] → cs = []) ∧ Escaped (encodeSegment cs) := by
  induction cs with
  | nil =>
      exact ⟨nofun, id, Escaped.nil⟩
  | cons c rest ih =>
      obtain ⟨hslash, -, hescaped⟩ := ih
      rw [encodeSegment]
      split
      · exact ⟨by simpa using hslash, nofun, hescaped.escape (Or.inl rfl)⟩
      · rename_i htilde
        split
        · exact ⟨by simpa using hslash, nofun, hescaped.escape (Or.inr rfl)⟩
        · rename_i hne
          rw [beq_iff_eq] at htilde hne
          refine ⟨?_, nofun, hescaped.cons htilde⟩
          rw [List.mem_cons, not_or]
          exact ⟨fun h => hne h.symm, hslash⟩

/-! ## Pointers -/

/-- A pointer that is `#/` with segments behind it, none of them empty, in which every tilde begins an
escape. -/
structure WellWritten (pointer : String) : Prop where
  segmented : ∃ rest, pointer = "#/" ++ rest ∧ ∀ field ∈ rest.toList.splitOn '/', field ≠ []
  escaped : Escaped pointer.toList

/-- The written segments with slashes between them. -/
def written (segments : List String) : List Char :=
  ['/'].intercalate (segments.map fun s => encodeSegment s.toList)

theorem toList_root (rest : String) : ("#/" ++ rest).toList = '#' :: '/' :: rest.toList :=
  String.toList_append

/-- A pointer is the written segments behind `#/`. -/
theorem render_eq {segments : List String} (hne : segments ≠ []) :
    Pointer.render segments = "#/" ++ String.ofList (written segments) := by
  have hjoined : (segments.flatMap fun s => '/' :: encodeSegment s.toList) =
      '/' :: written segments := by
    unfold written
    induction segments with
    | nil =>
        exact absurd rfl hne
    | cons s rest ih =>
        cases rest with
        | nil =>
            simp
        | cons t rest =>
            have hrest := ih (List.cons_ne_nil t rest)
            simp only [List.flatMap_cons, List.map_cons, List.intercalate_cons_cons] at hrest ⊢
            simp [hrest]
  apply String.toList_inj.1
  rw [Pointer.render, hjoined, toList_root, String.toList_ofList, String.toList_ofList]

/-- The written segments of a pointer, taken apart. -/
theorem splitOn_written {segments : List String} (hne : segments ≠ []) :
    (written segments).splitOn '/' = segments.map fun s => encodeSegment s.toList := by
  refine List.splitOn_intercalate '/' ?_ (by simpa using hne)
  intro field hfield
  obtain ⟨s, -, rfl⟩ := List.mem_map.1 hfield
  exact (encodeSegment_spec s.toList).1

/-- A written segment is empty only if the segment is. -/
theorem encodeSegment_toList_ne_nil {s : String} (hs : s ≠ "") : encodeSegment s.toList ≠ [] := by
  intro h
  exact hs (String.toList_inj.1 ((encodeSegment_spec s.toList).2.1 h))

/-- A row of segments is read back from the pointer that it is written as. -/
theorem parse_render {segments : List String} (hne : segments ≠ []) (hfull : ∀ s ∈ segments, s ≠ "") :
    Pointer.parse (Pointer.render segments) = .ok segments := by
  have hnonempty : ¬ (segments.map fun s => encodeSegment s.toList).any List.isEmpty = true := by
    simpa using fun s hs => encodeSegment_toList_ne_nil (hfull s hs)
  rw [render_eq hne, parse_root, String.toList_ofList, splitOn_written hne, if_neg hnonempty,
    List.map_map]
  refine congrArg Except.ok ((List.map_congr_left fun s _ => ?_).trans (List.map_id segments))
  rw [Function.comp_apply, decodeSegment_encodeSegment, String.ofList_toList, id]

/-- A pointer with segments that are not empty is well written. -/
theorem wellWritten_render {segments : List String} (hne : segments ≠ [])
    (hfull : ∀ s ∈ segments, s ≠ "") : WellWritten (Pointer.render segments) := by
  rw [render_eq hne]
  refine ⟨⟨_, rfl, ?_⟩, ?_⟩
  · intro field hfield
    rw [String.toList_ofList, splitOn_written hne] at hfield
    obtain ⟨s, hs, rfl⟩ := List.mem_map.1 hfield
    exact encodeSegment_toList_ne_nil (hfull s hs)
  · have hescaped : Escaped (written segments) := by
      apply Escaped.intercalate
      intro field hfield
      obtain ⟨s, -, rfl⟩ := List.mem_map.1 hfield
      exact (encodeSegment_spec s.toList).2.2
    rw [toList_root, String.toList_ofList]
    exact (hescaped.cons (by decide)).cons (by decide)

/-- A well-written pointer is what its segments are written as. -/
theorem WellWritten.exists_segments {pointer : String} (h : WellWritten pointer) :
    ∃ segments : List String, segments ≠ [] ∧ (∀ s ∈ segments, s ≠ "") ∧
      pointer = Pointer.render segments := by
  obtain ⟨rest, rfl, hfull⟩ := h.segmented
  have hescaped : Escaped (['/'].intercalate (rest.toList.splitOn '/')) := by
    have htext := h.escaped
    rw [toList_root] at htext
    rw [List.intercalate_splitOn]
    exact htext.of_cons.of_cons
  have hback : ∀ field ∈ rest.toList.splitOn '/', encodeSegment (decodeSegment field) = field := by
    intro field hfield
    apply encodeSegment_decodeSegment (hescaped.of_intercalate field hfield)
    exact Text.notMem_of_mem_splitOn hfield
  have hne : ((rest.toList.splitOn '/').map fun field => String.ofList (decodeSegment field)) ≠ [] := by
    simp
  refine ⟨_, hne, ?_, ?_⟩
  · intro s hs
    obtain ⟨field, hfield, rfl⟩ := List.mem_map.1 hs
    intro hempty
    -- The segment that is read as nothing would be written as nothing.
    have hdecoded : decodeSegment field = [] := by simpa using congrArg String.toList hempty
    have hfield' := hback field hfield
    rw [hdecoded] at hfield'
    exact hfull field hfield hfield'.symm
  · rw [render_eq hne, written, List.map_map]
    have hsame : (rest.toList.splitOn '/').map
        ((fun s => encodeSegment s.toList) ∘ fun field => String.ofList (decodeSegment field)) =
          rest.toList.splitOn '/' := by
      refine (List.map_congr_left fun field hfield => ?_).trans (List.map_id _)
      rw [Function.comp_apply, String.toList_ofList, hback field hfield, id]
    rw [hsame, List.intercalate_splitOn, String.ofList_toList]

/-- Well-written pointers are those that a row of segments, none of them empty, is written as. -/
theorem wellWritten_iff (pointer : String) :
    WellWritten pointer ↔ ∃ segments : List String, segments ≠ [] ∧ (∀ s ∈ segments, s ≠ "") ∧
      pointer = Pointer.render segments := by
  constructor
  · exact WellWritten.exists_segments
  · rintro ⟨segments, hne, hfull, rfl⟩
    exact wellWritten_render hne hfull

/-- Writing segments and reading a well-written pointer undo each other, so different pointers of that
kind are never read as the same segments. -/
theorem parse_render_inverse :
    (∀ segments : List String, segments ≠ [] → (∀ s ∈ segments, s ≠ "") →
      Pointer.parse (Pointer.render segments) = .ok segments) ∧
    (∀ pointer, WellWritten pointer → ∃ segments,
      Pointer.parse pointer = .ok segments ∧ Pointer.render segments = pointer) ∧
    (∀ pointer other, WellWritten pointer → WellWritten other →
      Pointer.parse pointer = Pointer.parse other → pointer = other) := by
  refine ⟨fun segments => parse_render, ?_, ?_⟩
  · intro pointer h
    obtain ⟨segments, hne, hfull, rfl⟩ := h.exists_segments
    exact ⟨segments, parse_render hne hfull, rfl⟩
  · intro pointer other h hother hsame
    obtain ⟨segments, hne, hfull, rfl⟩ := h.exists_segments
    obtain ⟨segments', hne', hfull', rfl⟩ := hother.exists_segments
    rw [parse_render hne hfull, parse_render hne' hfull', Except.ok.injEq] at hsame
    rw [hsame]

/-- Segments that hold the signs of the escapes themselves. -/
def tangledSegments : List String :=
  ["~1", "a/b", "~~0"]

theorem tangledSegments_parse_render_inverse :
    Pointer.render tangledSegments = "#/~01/a~1b/~0~00" ∧
      Pointer.parse (Pointer.render tangledSegments) = .ok tangledSegments ∧
        WellWritten "#/~01" ∧ WellWritten "#/~1" ∧
          (∃ segments, Pointer.parse "#/~01" = .ok segments ∧ Pointer.render segments = "#/~01") ∧
            Pointer.parse "#/~01" ≠ Pointer.parse "#/~1" := by
  obtain ⟨hparse, hrender, hinjective⟩ := parse_render_inverse
  have htilde : WellWritten "#/~01" := (wellWritten_iff _).2 ⟨["~1"], by decide, by decide, by decide⟩
  have hslash : WellWritten "#/~1" := (wellWritten_iff _).2 ⟨["/"], by decide, by decide, by decide⟩
  refine ⟨by decide, hparse tangledSegments (by decide) (by decide), htilde, hslash,
    hrender _ htilde, ?_⟩
  intro hsame
  exact absurd (hinjective _ _ htilde hslash hsame) (by decide)

end Reference
end ApiView
