import ApiView.Proofs.Naming.Identifier
import ApiView.Proofs.Text.Ascii
import ApiView.Proofs.Text.Pieces

/-!
# Paths — the name of a path is put together from its segments

The name of a verb and a path is made in one go from the words of the whole path, whose first letter is
made small and then large again.  This file takes it apart into its segments:

* `words_append_cons`: a character that belongs to no word parts words;
* `words_behind_by`: the words of a parameter stay apart from the `by` in front of them;
* `segmentWords`, `words_pathText`: the words that a segment stands for, and those of a path;
* `raise_joinCamel`: the first word with a capital is a word like the others;
* `pathName_compositional`: a longer path has a longer name, and slashes do not count.
-/

namespace ApiView
namespace Naming

open Text (IsAscii)

/-! ## Words -/

/-- A character that belongs to no word parts the words in front of it from those behind it. -/
theorem words_append_cons {c : Char} (hc : Text.isAlphanumeric c = false) (before after : List Char) :
    words (before ++ c :: after) = words before ++ words after := by
  unfold words runs
  rw [Text.runsOf_append_cons hc, List.flatMap_append]

theorem words_cons {c : Char} (hc : Text.isAlphanumeric c = false) (after : List Char) :
    words (c :: after) = words after :=
  words_append_cons hc [] after

/-- No word is empty. -/
theorem ne_nil_of_mem_splitAfter {word w rest : List Char} {last : Char} :
    w ∈ splitAfter word last rest → w ≠ [] := by
  intro h
  induction rest generalizing word last with
  | nil =>
      rw [splitAfter, List.mem_singleton] at h
      rw [h]
      exact List.append_ne_nil_of_right_ne_nil word (List.cons_ne_nil last [])
  | cons c rest ih =>
      have hpending : word ++ [last] ≠ [] :=
        List.append_ne_nil_of_right_ne_nil word (List.cons_ne_nil last [])
      rw [splitAfter] at h
      split at h
      · rcases List.mem_cons.1 h with rfl | h
        · exact hpending
        · exact ih h
      · split at h
        · rcases List.mem_cons.1 h with rfl | h
          · exact hpending
          · exact ih h
        · split at h
          · rename_i hacronym
            rcases List.mem_cons.1 h with rfl | h
            · -- The last capital of an acronym leaves a word behind only if there is one.
              rintro rfl
              simp at hacronym
            · exact ih h
          · exact ih h

/-- No word of a run is empty. -/
theorem ne_nil_of_mem_splitRun {run word : List Char} : word ∈ splitRun run → word ≠ [] := by
  intro h
  cases run with
  | nil =>
      cases h
  | cons c rest =>
      exact ne_nil_of_mem_splitAfter h

/-- No word of a text is empty. -/
theorem ne_nil_of_mem_words {cs word : List Char} : word ∈ words cs → word ≠ [] := by
  intro h
  obtain ⟨run, -, hword⟩ := List.mem_flatMap.1 h
  exact ne_nil_of_mem_splitRun hword

/-- The words of an ASCII text are ASCII. -/
theorem isAscii_of_mem_words {cs : List Char} (hcs : IsAscii cs) : ∀ w ∈ words cs, IsAscii w :=
  fun _ hw c hc => hcs c (of_mem_words hw c hc).1

/-! ## Segments -/

/-- The parameter that a segment is, without its braces and with a capital in front. -/
def parameter? : List Char → Option (List Char)
  | '\x7b' :: c :: rest =>
    if rest.getLast? = some '\x7d' then some (Text.upperChar c ++ rest.dropLast) else none
  | _ => none

/-- The words that a segment of a path stands for: its own words, or, if it is a parameter, the word `by`
and the words of the parameter. -/
def segmentWords (segment : List Char) : List (List Char) :=
  match parameter? segment with
  | some parameter => ['b', 'y'] :: words parameter
  | none => words segment

/-- Parameters are the segments in braces that have something between them. -/
theorem parameter?_eq_some_iff {segment parameter : List Char} :
    parameter? segment = some parameter ↔ ∃ c rest, segment = '\x7b' :: c :: (rest ++ ['\x7d']) ∧
      parameter = Text.upperChar c ++ rest := by
  constructor
  · intro h
    unfold parameter? at h
    split at h
    · rename_i c rest
      split at h
      · rename_i hlast
        obtain ⟨before, rfl⟩ := List.getLast?_eq_some_iff.1 hlast
        cases h
        exact ⟨c, before, rfl, by rw [List.dropLast_concat]⟩
      · cases h
    · cases h
  · rintro ⟨c, rest, rfl, rfl⟩
    simp [parameter?]

/-- A segment that is a parameter is rewritten, any other is left as it is. -/
theorem segmentText_eq (segment : List Char) :
    segmentText segment =
      ((parameter? segment).map fun parameter => 'b' :: 'y' :: parameter).getD segment := by
  cases hparameter : parameter? segment with
  | some parameter =>
      obtain ⟨c, rest, rfl, rfl⟩ := parameter?_eq_some_iff.1 hparameter
      simp [segmentText]
  | none =>
      unfold segmentText
      split
      · rename_i c rest
        have hlast : rest.getLast? ≠ some '\x7d' := by
          intro h
          simp [parameter?, h] at hparameter
        simp [hlast]
      · rfl

/-- The word `by` ends in front of anything but a small letter. -/
theorem words_behind_by {c : Char} (hc : Text.isAlphanumeric c = true → kindOf c ≠ .lower)
    (rest : List Char) : words ('b' :: 'y' :: c :: rest) = ['b', 'y'] :: words (c :: rest) := by
  by_cases hletter : Text.isAlphanumeric c = true
  · obtain ⟨run, others, hruns⟩ := Text.exists_run_of_pos hletter rest
    have hby : runs ('b' :: 'y' :: c :: rest) = ('b' :: 'y' :: c :: run) :: others :=
      hruns ['b', 'y'] (List.all_eq_true.1 (by decide))
    have halone : runs (c :: rest) = (c :: run) :: others := hruns [] (List.forall_mem_nil _)
    have hb : kindOf 'b' = .lower := by decide
    have hy : kindOf 'y' = .lower := by decide
    -- A digit and a capital begin a word behind a small letter.
    have hsplit : splitRun ('b' :: 'y' :: c :: run) = ['b', 'y'] :: splitRun (c :: run) := by
      cases hkind : kindOf c with
      | digit =>
          simp [splitRun, splitAfter, hb, hy, hkind]
      | upper =>
          simp [splitRun, splitAfter, hb, hy, hkind]
      | lower =>
          exact absurd hkind (hc hletter)
    unfold words
    rw [hby, halone, List.flatMap_cons, List.flatMap_cons, hsplit, List.cons_append]
  · rw [Bool.not_eq_true] at hletter
    have hby : words ['b', 'y'] = [['b', 'y']] := by decide
    calc
      words ('b' :: 'y' :: c :: rest)
          = words ['b', 'y'] ++ words rest := words_append_cons hletter ['b', 'y'] rest
      _ = ['b', 'y'] :: words rest := by rw [hby, List.singleton_append]
      _ = ['b', 'y'] :: words (c :: rest) := by rw [words_cons hletter]

/-- A capital form is no small letter. -/
theorem kindOf_toUpper : ∀ c : Char, c.toNat < 128 →
    Text.isAlphanumeric c.toUpper = true → kindOf c.toUpper ≠ .lower :=
  Text.forall_ascii (by decide +kernel)

/-- What a segment is rewritten to has the words that the segment stands for. -/
theorem words_segmentText {segment : List Char} (hascii : IsAscii segment) :
    words (segmentText segment) = segmentWords segment := by
  rw [segmentText_eq, segmentWords]
  cases hparameter : parameter? segment with
  | none =>
      rfl
  | some parameter =>
      obtain ⟨c, rest, rfl, rfl⟩ := parameter?_eq_some_iff.1 hparameter
      have hc : c.toNat < 128 := hascii c (List.mem_cons_of_mem _ List.mem_cons_self)
      rw [Text.upperChar_of_ascii c hc]
      exact words_behind_by (kindOf_toUpper c hc) rest

/-- A segment of ASCII characters is rewritten to such characters. -/
theorem isAscii_segmentText {segment : List Char} (hascii : IsAscii segment) :
    IsAscii (segmentText segment) := by
  rw [segmentText_eq]
  cases hparameter : parameter? segment with
  | none =>
      exact hascii
  | some parameter =>
      obtain ⟨c, rest, rfl, rfl⟩ := parameter?_eq_some_iff.1 hparameter
      unfold IsAscii at hascii ⊢
      simp only [List.forall_mem_cons, List.forall_mem_append] at hascii
      obtain ⟨-, hc, hrest, -⟩ := hascii
      have hupper : c.toUpper.toNat < 128 := Text.toUpper_lt_of_ascii c hc
      rw [Text.upperChar_of_ascii c hc]
      simp only [Option.map_some, Option.getD_some, List.forall_mem_cons, List.cons_append]
      exact ⟨by decide, by decide, hupper, hrest⟩

/-- The words of a path are those of its segments, one segment after the other. -/
theorem words_pathText (parts : List (List Char)) :
    words (pathText parts) = parts.flatMap fun segment => words (segmentText segment) := by
  induction parts using pathText.induct with
  | case1 =>
      rfl
  | case2 segment =>
      rw [pathText, List.flatMap_singleton]
  | case3 segment next rest ih =>
      have hhyphen : Text.isAlphanumeric '-' = false := by decide
      rw [pathText, words_append_cons hhyphen, ih]
      rfl

/-- The segments of a path are what lies between slashes, without the empty ones. -/
theorem segments_eq_filter (path : List Char) :
    segments path = (path.splitOn '/').filter fun segment => !segment.isEmpty := by
  rw [segments, Text.runsOf_eq_filter, List.splitOn_eq_splitOnP]
  simp only [bne, Bool.not_not]

/-- The segments of a path in two parts are those of the parts. -/
theorem segments_append (path more : List Char) :
    segments (path ++ '/' :: more) = segments path ++ segments more :=
  Text.runsOf_append_cons (by decide) path more

/-- Slashes in front of a path make no segment. -/
theorem segments_behind_slashes (n : Nat) (path : List Char) :
    segments (List.replicate n '/' ++ path) = segments path := by
  induction n with
  | zero =>
      rfl
  | succ n ih =>
      calc
        segments (List.replicate (n + 1) '/' ++ path)
            = segments [] ++ segments (List.replicate n '/' ++ path) := segments_append [] _
        _ = segments path := ih

/-- A row of slashes parts segments like a single one. -/
theorem segments_around_slashes (n : Nat) (path more : List Char) :
    segments (path ++ List.replicate (n + 1) '/' ++ more) = segments path ++ segments more := by
  calc
    segments (path ++ List.replicate (n + 1) '/' ++ more)
        = segments (path ++ '/' :: (List.replicate n '/' ++ more)) := by
          rw [List.replicate_succ, List.append_assoc, List.cons_append]
    _ = segments path ++ segments (List.replicate n '/' ++ more) := segments_append path _
    _ = segments path ++ segments more := by rw [segments_behind_slashes]

/-! ## Names -/

/-- A text with a capital in front. -/
def raise : List Char → List Char
  | [] => []
  | c :: rest => Text.upperChar c ++ rest

/-- The first word is made small and gets its capital back, so it is a word like the others. -/
theorem raise_joinCamel {ws : List (List Char)} (hne : ∀ w ∈ ws, w ≠ [])
    (hascii : ∀ w ∈ ws, IsAscii w) : raise (joinCamel ws) = ws.flatMap capitalise := by
  cases ws with
  | nil =>
      rfl
  | cons head rest =>
      cases head with
      | nil =>
          exact absurd rfl (hne [] List.mem_cons_self)
      | cons c cs =>
          have hhead := hascii (c :: cs) List.mem_cons_self
          have htail : IsAscii cs := (List.forall_mem_cons.1 hhead).2
          calc
            raise (joinCamel ((c :: cs) :: rest))
                = raise (c.toLower :: cs.map Char.toLower ++ rest.flatMap capitalise) := by
                  rw [joinCamel, Text.lower_of_ascii hhead, List.map_cons]
            _ = Text.upperChar c.toLower ++ (cs.map Char.toLower ++ rest.flatMap capitalise) := rfl
            _ = (Text.upperChar c ++ Text.lower cs) ++ rest.flatMap capitalise := by
                  rw [Text.upperChar_toLower, Text.lower_of_ascii htail, List.append_assoc]
            _ = ((c :: cs) :: rest).flatMap capitalise := rfl

/-- The name of a verb and a path: the verb, and the words that the segments stand for. -/
theorem pathNameChars_eq (verb : List Char) {path : List Char} (hascii : IsAscii path) :
    pathNameChars verb path =
      Text.lower verb ++ ((segments path).flatMap segmentWords).flatMap capitalise := by
  have hsegment : ∀ segment ∈ segments path, IsAscii segment := by
    intro segment hsegment c hc
    exact hascii c (Text.mem_of_mem_runsOf hsegment c hc)
  have hwords : words (pathText (segments path)) = (segments path).flatMap segmentWords := by
    rw [words_pathText]
    exact List.flatMap_congr fun segment hmem => words_segmentText (hsegment segment hmem)
  have hword : ∀ w ∈ words (pathText (segments path)), IsAscii w := by
    intro w hw
    rw [words_pathText] at hw
    obtain ⟨segment, hmem, hw⟩ := List.mem_flatMap.1 hw
    exact isAscii_of_mem_words (isAscii_segmentText (hsegment segment hmem)) w hw
  calc
    pathNameChars verb path
        = Text.lower verb ++ raise (joinCamel (words (pathText (segments path)))) := rfl
    _ = Text.lower verb ++ (words (pathText (segments path))).flatMap capitalise := by
          rw [raise_joinCamel (fun w => ne_nil_of_mem_words) hword]
    _ = _ := by rw [hwords]

/-- What the segments of a path add to its name. -/
def segmentsName (parts : List (List Char)) : String :=
  String.ofList ((parts.flatMap segmentWords).flatMap capitalise)

/-- The name of two rows of segments is made of the names of each. -/
theorem segmentsName_append (parts more : List (List Char)) :
    segmentsName (parts ++ more) = segmentsName parts ++ segmentsName more := by
  simp only [segmentsName, List.flatMap_append, String.ofList_append]

/-- The name of a verb and an ASCII path, segment by segment. -/
theorem pathName_eq (verb : String) {path : String} (hascii : IsAscii path.toList) :
    pathName verb path = Text.toLower verb ++ segmentsName (segments path.toList) := by
  rw [pathName, pathNameChars_eq verb.toList hascii, String.ofList_append]
  rfl

/-- Only the segments of a path count. -/
theorem pathName_congr (verb : String) {path other : String}
    (h : segments path.toList = segments other.toList) : pathName verb path = pathName verb other := by
  unfold pathName pathNameChars
  rw [h]

theorem segments_toList (path more : String) :
    segments (path ++ "/" ++ more).toList = segments path.toList ++ segments more.toList := by
  have htext : (path ++ "/" ++ more).toList = path.toList ++ '/' :: more.toList := by
    simp [String.toList_append]
  rw [htext, segments_append]

/-- A row of slashes. -/
def slashes (n : Nat) : String :=
  String.ofList (List.replicate n '/')

/-- Slashes in front of a path, behind it, and one after the other do not count. -/
theorem segments_slashes (n : Nat) (path more : String) :
    segments (slashes n ++ path).toList = segments path.toList ∧
      segments (path ++ slashes n).toList = segments path.toList ∧
        segments (path ++ slashes (n + 1) ++ more).toList =
          segments path.toList ++ segments more.toList := by
  simp only [slashes, String.toList_append, String.toList_ofList]
  refine ⟨segments_behind_slashes n path.toList, ?_, segments_around_slashes n path.toList more.toList⟩
  cases n with
  | zero =>
      rw [List.replicate_zero, List.append_nil]
  | succ n =>
      have hbehind := segments_around_slashes n path.toList []
      rw [List.append_nil] at hbehind
      rw [hbehind]
      exact List.append_nil _

/-- The name of a longer path is the name of its front with the name of its back behind it, less the verb.
A name is its verb and, capitalised, the words that the segments stand for which are not empty, and slashes
in front, behind or in a row do not count. -/
theorem pathName_compositional (verb : String) {path more : String} (hpath : IsAscii path.toList)
    (hmore : IsAscii more.toList) :
    (∃ tail, pathName verb more = Text.toLower verb ++ tail ∧
      pathName verb (path ++ "/" ++ more) = pathName verb path ++ tail) ∧
    pathName verb path = Text.toLower verb ++ segmentsName
      ((path.toList.splitOn '/').filter fun segment => !segment.isEmpty) ∧
    ∀ n, pathName verb (slashes n ++ path) = pathName verb path ∧
      pathName verb (path ++ slashes n) = pathName verb path ∧
        pathName verb (path ++ slashes (n + 1) ++ more) = pathName verb (path ++ "/" ++ more) := by
  have hslash : IsAscii "/".toList := by decide
  -- In ASCII the name is that of the verb and then, segment by segment, that of the path.
  have hlonger : IsAscii (path ++ "/" ++ more).toList := by
    unfold IsAscii at hpath hmore hslash ⊢
    simp only [String.toList_append, List.forall_mem_append]
    exact ⟨⟨hpath, hslash⟩, hmore⟩
  refine ⟨⟨segmentsName (segments more.toList), pathName_eq verb hmore, ?_⟩, ?_, ?_⟩
  · calc
      pathName verb (path ++ "/" ++ more)
          = Text.toLower verb ++ segmentsName (segments (path ++ "/" ++ more).toList) :=
            pathName_eq verb hlonger
      _ = Text.toLower verb ++
            (segmentsName (segments path.toList) ++ segmentsName (segments more.toList)) := by
            rw [segments_toList, segmentsName_append]
      _ = pathName verb path ++ segmentsName (segments more.toList) := by
            rw [pathName_eq verb hpath, String.append_assoc]
  · rw [pathName_eq verb hpath, segments_eq_filter]
  · intro n
    obtain ⟨hfront, hback, hrow⟩ := segments_slashes n path more
    refine ⟨pathName_congr verb hfront, pathName_congr verb hback, pathName_congr verb ?_⟩
    rw [hrow, segments_toList]

/-- A path with a parameter of two words, and slashes too many. -/
def petPath : String :=
  "/pets//\x7bpet_id\x7d/"

/-- A path with a digit in front, a segment of symbols, a parameter and braces around nothing. -/
def codePath : String :=
  "2fa/-_-/\x7bx\x7d/\x7b\x7d"

theorem petPath_pathName_compositional :
    IsAscii petPath.toList ∧ IsAscii codePath.toList ∧
      pathName "GET" petPath = "getPetsByPetId" ∧ pathName "GET" codePath = "get2FaByX" ∧
        pathName "GET" (petPath ++ "/" ++ codePath) = "getPetsByPetId2FaByX" := by
  have hpet : IsAscii petPath.toList := by decide
  have hcode : IsAscii codePath.toList := by decide
  obtain ⟨⟨tail, htail, hlonger⟩, -, -⟩ := pathName_compositional "GET" hpet hcode
  have hfront : pathName "GET" petPath = "getPetsByPetId" := by decide +kernel
  have hback : pathName "GET" codePath = "get2FaByX" := by decide +kernel
  have hverb : Text.toLower "GET" = "get" := by decide +kernel
  refine ⟨hpet, hcode, hfront, hback, ?_⟩
  have htail' : tail = "2FaByX" := by
    rw [hback, hverb] at htail
    exact (String.append_right_inj "get").1 htail.symm
  rw [hlonger, hfront, htail']
  decide

end Naming
end ApiView
