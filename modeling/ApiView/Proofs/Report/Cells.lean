import ApiView.Proofs.Build.SafeNames
import ApiView.Proofs.CommandLine.Restored
import ApiView.Proofs.Reference.Tables
import ApiView.Proofs.Request.Strictness
import ApiView.Proofs.Text.Pieces

/-!
# Cells — tables that are read back from their lines

A plain table has a line for each row and a tab between two cells.  Cells are written as they are, so a tab
or a line break in one of them cannot be told from one that parts cells or rows:

* `Fits`, `Table.Fits`: cells without tabs and line breaks, in rows that have cells;
* `fits_of_mem_cellsOf`: whatever is read from lines fits;
* `cellsOf_lines_iff`: a table is read back iff it fits;
* `Table.ReadFrom`, `exists_delivered_iff`: a table that was delivered;
* `fits_methodsTable_iff`, `fits_definitionsTable_iff`: the tables of the commands;
* `tables_readFrom`: every table, and every table that a command delivers.
-/

namespace ApiView

/-! ## Cells that fit -/

/-- A cell without tabs and line breaks. -/
def Fits (cell : String) : Prop :=
  '\t' ∉ cell.toList ∧ '\n' ∉ cell.toList

instance (cell : String) : Decidable (Fits cell) :=
  inferInstanceAs (Decidable (_ ∧ _))

/-- Every row has cells, and every cell fits. -/
def Table.Fits (t : Table) : Prop :=
  ∀ row ∈ t.headers :: t.rows, row ≠ [] ∧ ∀ cell ∈ row, ApiView.Fits cell

variable {t : Table} {row : List String}

/-- What is read from lines fits, whatever they are. -/
theorem fits_of_mem_cellsOf {text : List Char} :
    row ∈ cellsOf text → row ≠ [] ∧ ∀ cell ∈ row, Fits cell := by
  intro h
  simp only [cellsOf, Text.fieldsAt_eq_splitOn] at h
  obtain ⟨line, hline, rfl⟩ := List.mem_map.1 h
  refine ⟨by simp, fun cell hcell => ?_⟩
  obtain ⟨field, hfield, rfl⟩ := List.mem_map.1 hcell
  refine ⟨?_, ?_⟩
  · rw [String.toList_ofList]
    exact Text.notMem_of_mem_splitOn hfield
  · -- The characters of a field are characters of its line.
    rw [String.toList_ofList]
    intro hbreak
    rw [List.splitOn_eq_splitOnP] at hfield
    exact Text.notMem_of_mem_splitOn hline (Text.of_mem_splitOnP hfield _ hbreak).1

theorem rowLine_eq_intercalate (row : List String) :
    Table.rowLine row = ['\t'].intercalate (row.map String.toList) :=
  Text.joinWith_eq_intercalate _ _

/-- A row without line breaks has a line without them. -/
theorem lineBreak_notMem_rowLine (h : ∀ cell ∈ row, Fits cell) : '\n' ∉ Table.rowLine row := by
  rw [rowLine_eq_intercalate]
  -- The induction takes one cell off the row; only a tab stands between it and the next one.
  induction row with
  | nil =>
      exact List.not_mem_nil
  | cons cell rest ih =>
      obtain ⟨hcell, hrest⟩ := List.forall_mem_cons.1 h
      cases rest with
      | nil =>
          simpa using hcell.2
      | cons next rest =>
          have hnext := ih hrest
          rw [List.map_cons, List.map_cons, List.intercalate_cons_cons, ← List.map_cons]
          simp only [List.mem_append, not_or]
          exact ⟨⟨hcell.2, by decide⟩, hnext⟩

/-- Splitting a row at its tabs gives back the cells, if they all fit. -/
theorem splitOn_rowLine (hne : row ≠ []) (h : ∀ cell ∈ row, Fits cell) :
    (Table.rowLine row).splitOn '\t' = row.map String.toList := by
  rw [rowLine_eq_intercalate]
  refine List.splitOn_intercalate '\t' ?_ (by simpa using hne)
  intro field hfield
  obtain ⟨cell, hcell, rfl⟩ := List.mem_map.1 hfield
  exact (h cell hcell).1

/-- A table that fits is read back from its lines. -/
theorem Table.Fits.cellsOf_lines (h : t.Fits) : cellsOf t.lines = t.headers :: t.rows := by
  -- No line holds a line break, so the lines are told apart; within each line so are the cells.
  have hrows : t.lines.splitOn '\n' = (t.headers :: t.rows).map Table.rowLine := by
    rw [Table.lines, Text.joinWith_eq_intercalate]
    refine List.splitOn_intercalate '\n' ?_ (by simp)
    intro line hline
    obtain ⟨row, hrow, rfl⟩ := List.mem_map.1 hline
    exact lineBreak_notMem_rowLine (h row hrow).2
  have hcells : ∀ row ∈ t.headers :: t.rows,
      ((Table.rowLine row).splitOn '\t').map String.ofList = row := by
    intro row hrow
    obtain ⟨hne, hfits⟩ := h row hrow
    rw [splitOn_rowLine hne hfits, List.map_map]
    exact (List.map_congr_left fun cell _ => String.ofList_toList).trans (List.map_id row)
  simp only [cellsOf, Text.fieldsAt_eq_splitOn]
  rw [hrows, List.map_map]
  exact (List.map_congr_left hcells).trans (List.map_id _)

/-- A table is read back from its lines iff it fits. -/
theorem cellsOf_lines_iff (t : Table) : cellsOf t.lines = t.headers :: t.rows ↔ t.Fits := by
  constructor
  · intro h row hrow
    rw [← h] at hrow
    exact fits_of_mem_cellsOf hrow
  · exact Table.Fits.cellsOf_lines

/-- A table with a row for each of some things fits iff the cells of each do. -/
theorem fits_map_iff {α : Type} {headers : List String} {things : List α} {cells : α → List String}
    (hheaders : headers ≠ [] ∧ ∀ cell ∈ headers, Fits cell) (hne : ∀ x, cells x ≠ []) :
    (Table.mk headers (things.map cells)).Fits ↔ ∀ x ∈ things, ∀ cell ∈ cells x, Fits cell := by
  unfold Table.Fits
  rw [List.forall_mem_cons, List.forall_mem_map]
  constructor
  · rintro ⟨_, hrows⟩ x hx
    exact (hrows x hx).2
  · intro hcells
    exact ⟨hheaders, fun x hx => ⟨hne x, hcells x hx⟩⟩

/-! ## Tables that were delivered -/

/-- A table is what a text is read as whose last line is ended. -/
def Table.ReadFrom (t : Table) (text : String) : Prop :=
  ∃ lines, text.toList = lines ++ ['\n'] ∧ cellsOf lines = t.headers :: t.rows

/-- Lines that end with a line break have an empty row behind it. -/
theorem emptyRow_mem_cellsOf (lines : List Char) : [""] ∈ cellsOf (lines ++ ['\n']) := by
  simp only [cellsOf, Text.fieldsAt_eq_splitOn, List.splitOn_eq_splitOnP]
  rw [List.splitOnP_append_cons lines [] (by decide)]
  simp [List.splitOnP_nil]

/-- The lines of a table that fits do not end with a line break, if each row has several cells. -/
theorem getLast?_lines (h : t.Fits) (hwide : ∀ row ∈ t.headers :: t.rows, 2 ≤ row.length) :
    t.lines.getLast? ≠ some '\n' := by
  intro hlast
  obtain ⟨lines, hlines⟩ := List.getLast?_eq_some_iff.1 hlast
  -- The last row that is read would have a single cell.
  have hempty : [""] ∈ t.headers :: t.rows := by
    rw [← h.cellsOf_lines, hlines]
    exact emptyRow_mem_cellsOf lines
  exact absurd (hwide _ hempty) (by decide)

/-- What any text is read as fits. -/
theorem Table.ReadFrom.fits {text : String} : t.ReadFrom text → t.Fits := by
  rintro ⟨lines, _, hcells⟩ row hrow
  rw [← hcells] at hrow
  exact fits_of_mem_cellsOf hrow

/-- What a run delivers of a table that has several cells in each row is read as that table iff it fits. -/
theorem exists_delivered_iff {o : Output} {p : Printed}
    (hwide : ∀ row ∈ t.headers :: t.rows, 2 ≤ row.length)
    (hdelivers : o.Delivers (String.ofList t.lines) p) :
    ∃ text, o.delivered p = some text ∧ (t.ReadFrom text ↔ t.Fits) := by
  have hread : t.Fits → t.ReadFrom (String.ofList t.lines ++ "\n") := by
    intro h
    refine ⟨t.lines, ?_, h.cellsOf_lines⟩
    rw [String.toList_append, String.toList_ofList]
    rfl
  unfold Output.Delivers at hdelivers
  unfold Output.delivered
  cases hfile : o.file? with
  | none =>
      rw [hfile] at hdelivers
      exact ⟨_, congrArg some hdelivers.1, Table.ReadFrom.fits, hread⟩
  | some path =>
      rw [hfile] at hdelivers
      refine ⟨_, hdelivers.2, Table.ReadFrom.fits, fun h => ?_⟩
      -- The last row does not end the last line itself.
      have hlast : ¬ (t.lines.getLast? == some '\n') = true := by
        rw [beq_iff_eq]
        exact getLast?_lines h hwide
      rw [endLine, String.toList_ofList, if_neg hlast]
      exact hread h

namespace CommandLine

/-! ## The tables of the commands -/

variable {r : Request} {s : Situation} {v : View}

/-- Identifier characters and marks part nothing. -/
theorem fits_of_isMarkedChar {name : String} (h : ∀ c ∈ name.toList, Naming.IsMarkedChar c) :
    Fits name := by
  have hmarks : (Text.caseMarks.all fun c => c != '\t' && c != '\n') = true := by decide +kernel
  have hother : ∀ c ∈ name.toList, c ≠ '\t' ∧ c ≠ '\n' := by
    intro c hc
    rcases h c hc with hchar | hmark
    · have hblank := Naming.not_isBlank_of_isIdentifierChar hchar
      constructor
      · rintro rfl
        cases hblank
      · rintro rfl
        cases hblank
    · simpa using List.all_eq_true.1 hmarks c hmark
  exact ⟨fun htab => (hother _ htab).1 rfl, fun hbreak => (hother _ hbreak).2 rfl⟩

/-- The names of methods are identifiers, up to marks, in every view that is built. -/
theorem fits_name_of_build (h : (r.build s).2 = .ok v) : ∀ m ∈ v.methods, Fits m.name := by
  rw [build_snd] at h
  simp only [bind_eq_ok_iff] at h
  obtain ⟨settings, _, document, _, hbuilt⟩ := h
  obtain ⟨grammar, completed, parsed, _, hview⟩ := exists_grammar_of_buildView hbuilt
  obtain ⟨entries, drafts, _, hv⟩ := Build.viewed_of_view hview
  intro m hm
  -- Every method stands for an operation, and is named after its id or its path.
  obtain ⟨op, _, draft, hdraft, hrest, hname⟩ := exists_match hv.methods_forall₂.flip hm
  exact fits_of_isMarkedChar
    (Build.safelyNamed_of_represents (Build.represents_of_method hdraft hrest hname)).chars

theorem fits_credentialsText (c : Credentials) : Fits (credentialsText c) := by
  obtain ⟨token, apiKey, basic⟩ := c
  cases token <;> cases apiKey <;> cases basic <;> decide

theorem fits_word (verb : Verb) : Fits verb.word := by
  cases verb <;> decide

/-- The table of methods fits iff the paths do, since names, verbs and credentials always do. -/
theorem fits_methodsTable_iff (h : ∀ m ∈ v.methods, Fits m.name) :
    (methodsTable v).Fits ↔ ∀ m ∈ v.methods, Fits m.path := by
  unfold methodsTable
  rw [fits_map_iff (by decide) fun _ => List.cons_ne_nil _ _]
  refine forall₂_congr fun m hm => ?_
  simp only [List.forall_mem_cons, List.not_mem_nil, false_implies, implies_true, and_true]
  constructor
  · exact fun hcells => hcells.2.2.1
  · exact fun hpath => ⟨h m hm, fits_word m.verb, hpath, fits_credentialsText m.credentials⟩

/-- The table of definitions fits iff their names, types and descriptions do. -/
theorem fits_definitionsTable_iff : (definitionsTable v).Fits ↔
    ∀ d ∈ v.definitions, Fits d.name ∧ Fits d.type ∧ Fits (orDash d.description) := by
  unfold definitionsTable
  rw [fits_map_iff (by decide) fun _ => List.cons_ne_nil _ _]
  refine forall₂_congr fun d _ => ?_
  simp only [List.forall_mem_cons, List.not_mem_nil, false_implies, implies_true, and_true]

/-- The table that a command shows of a view, if it shows one. -/
def Command.table? (command : Command) (v : View) : Option Table :=
  match command with
  | .methods => some (methodsTable v)
  | .definitions => some (definitionsTable v)
  | .view | .render => none

/-- A command that has a table for a view shows this table. -/
theorem shown_table {command : Command} {render : Renderer} {templates : TemplateTexts}
    {shown : Shown} {t : Table} (htable : command.table? v = some t) :
    command.shown render templates v = .ok shown → shown.data = .table t := by
  intro h
  -- The other two commands show no table.
  cases command with
  | methods =>
      cases htable
      cases h
      rfl
  | definitions =>
      cases htable
      cases h
      rfl
  | _ =>
      cases htable

/-- The rows of the methods have four cells, those of the definitions three. -/
theorem wide_of_table? {command : Command} {t : Table} (htable : command.table? v = some t) :
    ∀ row ∈ t.headers :: t.rows, 2 ≤ row.length := by
  have hrows : ∀ {α : Type} (things : List α) (cells : α → List String) (headers : List String),
      (∀ x, 2 ≤ (cells x).length) → 2 ≤ headers.length →
        ∀ row ∈ headers :: things.map cells, 2 ≤ row.length := by
    intro α things cells headers hcells hheaders
    rw [List.forall_mem_cons, List.forall_mem_map]
    exact ⟨hheaders, fun x _ => hcells x⟩
  cases command with
  | methods =>
      cases htable
      exact hrows _ _ _ (fun _ => by simp) (by simp [methodsTable])
  | definitions =>
      cases htable
      exact hrows _ _ _ (fun _ => by simp) (by simp [definitionsTable])
  | _ =>
      cases htable

/-- What a run delivers of its table is read as that table iff it fits. -/
theorem exists_readFrom_iff {table : View → Table} (hplain : r.general.output.format = .plain)
    (htable : ∀ v, r.command.table? v = some (table v)) (hzero : (r.run s).exitCode = 0) :
    ∃ v text, (r.build s).2 = .ok v ∧ r.general.output.delivered (r.run s).printed = some text ∧
      ((table v).ReadFrom text ↔ (table v).Fits) := by
  obtain ⟨shown, houtcome, hdelivers⟩ := shown_of_exitCode hzero
  obtain ⟨templates, v, hbuild, hshown⟩ := exists_view_of_outcome houtcome
  rw [shown_table (htable v) hshown, hplain] at hdelivers
  obtain ⟨text, hdelivered, hiff⟩ := exists_delivered_iff (wide_of_table? (htable v)) hdelivers
  exact ⟨v, text, hbuild, hdelivered, hiff⟩

/-- A table is read back from its lines iff each row has cells and no cell holds a tab or a line break.  So a
run that lists methods delivers its table, to be read from lines that are ended, iff that is so of the paths;
and a run that lists definitions iff it is so of their names, types and descriptions. -/
theorem tables_readFrom (t : Table) (r : Request) (s : Situation) (words : List String) :
    (cellsOf t.lines = t.headers :: t.rows ↔ t.Fits) ∧
      (Invocation.read words = .ok (.run r) → r.general.output.format = .plain →
        (run s words).exitCode = 0 →
          (r.command = .methods → ∃ v text, (r.build s).2 = .ok v ∧
            r.general.output.delivered (run s words).printed = some text ∧
              ((methodsTable v).ReadFrom text ↔ ∀ m ∈ v.methods, Fits m.path)) ∧
          (r.command = .definitions → ∃ v text, (r.build s).2 = .ok v ∧
            r.general.output.delivered (run s words).printed = some text ∧
              ((definitionsTable v).ReadFrom text ↔
                ∀ d ∈ v.definitions, Fits d.name ∧ Fits d.type ∧ Fits (orDash d.description)))) := by
  refine ⟨cellsOf_lines_iff t, fun hread hplain hzero => ?_⟩
  rw [run_of_read hread] at hzero ⊢
  constructor
  · intro hcommand
    obtain ⟨v, text, hbuild, hdelivered, hiff⟩ :=
      exists_readFrom_iff hplain (fun v => by rw [hcommand]; rfl) hzero
    exact ⟨v, text, hbuild, hdelivered, hiff.trans (fits_methodsTable_iff (fits_name_of_build hbuild))⟩
  · intro hcommand
    obtain ⟨v, text, hbuild, hdelivered, hiff⟩ :=
      exists_readFrom_iff hplain (fun v => by rw [hcommand]; rfl) hzero
    exact ⟨v, text, hbuild, hdelivered, hiff.trans fits_definitionsTable_iff⟩

/-- A request for the definitions of a document on standard input. -/
def listingDefinitions : Request := ⟨{ plain := true }, .definitions, "-", {}⟩

def listingDefinitionsWords : List String := ["--plain", "definitions", "-"]

/-- Two definitions in writing, one of them without a description. -/
def describedDocument : String :=
  "\x7b\"swagger\":\"2.0\",\"definitions\":\x7b\"Pet\":\x7b\"description\":\"A pet, \\\"small\\\"\"," ++
    "\"required\":[\"id\"],\"properties\":\x7b\"id\":\x7b\"type\":\"integer\"\x7d\x7d\x7d," ++
    "\"Tag\":\x7b\"type\":\"string\"\x7d\x7d\x7d"

theorem describedDocument_readFrom :
    Invocation.read listingDefinitionsWords = .ok (.run listingDefinitions) ∧
      (run (piped describedDocument) listingDefinitionsWords).exitCode = 0 ∧
        ∃ v text, (listingDefinitions.build (piped describedDocument)).2 = .ok v ∧
          listingDefinitions.general.output.delivered
            (run (piped describedDocument) listingDefinitionsWords).printed = some text ∧
              (definitionsTable v).rows =
                [["Pet", "\x7b 'id': number \x7d", "A pet, \"small\""], ["Tag", "string", "-"]] ∧
              (definitionsTable v).ReadFrom text := by
  have hread : Invocation.read listingDefinitionsWords = .ok (.run listingDefinitions) := by
    decide +kernel
  have hzero : (run (piped describedDocument) listingDefinitionsWords).exitCode = 0 := by
    decide +kernel
  have hrun : (listingDefinitions.build (piped describedDocument)).2.toOption.map
      (fun v => ((definitionsTable v).rows,
        v.definitions.all fun d => Fits d.name ∧ Fits d.type ∧ Fits (orDash d.description))) =
      some ([["Pet", "\x7b 'id': number \x7d", "A pet, \"small\""], ["Tag", "string", "-"]], true) := by
    decide +kernel
  obtain ⟨v, text, hbuild, hdelivered, hiff⟩ :=
    ((tables_readFrom ⟨[], []⟩ _ (piped describedDocument) _).2 hread rfl hzero).2 rfl
  rw [hbuild] at hrun
  obtain ⟨hrows, hfits⟩ := Prod.mk.inj (Option.some.inj hrun)
  refine ⟨hread, hzero, v, text, hbuild, hdelivered, hrows, hiff.2 fun d hd => ?_⟩
  simpa using List.all_eq_true.1 hfits d hd

/-- A definition in writing whose description has two lines. -/
def twoLinesDocument : String :=
  "\x7b\"swagger\":\"2.0\",\"definitions\":\x7b\"Pet\":\x7b\"type\":\"string\"," ++
    "\"description\":\"A pet.\\nOr two.\"\x7d\x7d\x7d"

/-- The second line of the description is read as a row. -/
theorem twoLinesDocument_not_readFrom :
    Invocation.read listingDefinitionsWords = .ok (.run listingDefinitions) ∧
      (run (piped twoLinesDocument) listingDefinitionsWords).exitCode = 0 ∧
        ∃ v text, (listingDefinitions.build (piped twoLinesDocument)).2 = .ok v ∧
          listingDefinitions.general.output.delivered
            (run (piped twoLinesDocument) listingDefinitionsWords).printed = some text ∧
              text = "Name\tType\tDescription\nPet\tstring\tA pet.\nOr two.\n" ∧
              ¬ (definitionsTable v).ReadFrom text := by
  have hrun : (listingDefinitions.build (piped twoLinesDocument)).2.toOption.map
      (fun v => (definitionsTable v).rows) = some [["Pet", "string", "A pet.\nOr two."]] := by
    decide +kernel
  obtain ⟨v, hbuild, hrows⟩ := exists_ok_of_toOption_map hrun
  refine ⟨by decide +kernel, by decide +kernel, v, _, hbuild, ?_, rfl, fun hfrom => ?_⟩
  · decide +kernel
  · have hfits := hfrom.fits ["Pet", "string", "A pet.\nOr two."] (by rw [hrows]; simp)
    exact absurd hfits.2 (by decide)

end CommandLine
end ApiView
