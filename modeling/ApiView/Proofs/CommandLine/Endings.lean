import ApiView.Proofs.CommandLine.Restored
import ApiView.Proofs.CommandLine.Words
import ApiView.Proofs.Text.Pieces

/-!
# Endings — the same data in a file and on standard output

Data in a file gets a line break where it lacks one at its end, data on standard output gets one in any
case.  So a run that names a file leaves in it what the run would have put on standard output otherwise, unless
the data ends with a line break already:

* `EndsLine`, `endLine_eq_iff`: texts with a line break at their end;
* `Table.getLast?_lines_of_cell`: a plain table ends like its last cell;
* `endsLine_of_shown`: rendered texts, and descriptions at the end of a table, may end with a line break;
* `outcome_of_toFile`: a run shows the same whether it names a file or not;
* `file_eq_stdout_iff`: the two runs next to each other.
-/

namespace ApiView

/-! ## Line breaks at the end -/

/-- A text with a line break at its end. -/
def EndsLine (text : String) : Prop :=
  text.toList.getLast? = some '\n'

instance (text : String) : Decidable (EndsLine text) :=
  inferInstanceAs (Decidable (_ = _))

/-- A text that ends a line is left alone. -/
theorem endLine_of_endsLine {text : String} (h : EndsLine text) : endLine text = text := by
  rw [endLine, h, if_pos (beq_self_eq_true _)]

theorem endLine_of_not_endsLine {text : String} (h : ¬ EndsLine text) : endLine text = text ++ "\n" := by
  rw [endLine, if_neg (by rwa [beq_iff_eq])]

/-- A line break is put behind a text iff it has none at its end. -/
theorem endLine_eq_iff (text : String) : endLine text = text ++ "\n" ↔ ¬ EndsLine text := by
  constructor
  · intro h hends
    rw [endLine_of_endsLine hends] at h
    -- No text is as long as itself with something behind it.
    have hlength := congrArg String.length h
    rw [String.length_append] at hlength
    exact Nat.ne_of_lt (Nat.lt_add_of_pos_right (by decide)) hlength
  · exact endLine_of_not_endsLine

/-! ## How data ends -/

/-- A plain table ends like the last cell of its last row, if that is not empty. -/
theorem Table.getLast?_lines_of_cell {t : Table} {row : List String} {cell : String}
    (hrow : (t.headers :: t.rows).getLast? = some row) (hcell : row.getLast? = some cell)
    (hne : cell ≠ "") : t.lines.getLast? = cell.toList.getLast? := by
  have hfull : cell.toList ≠ [] := by simpa using hne
  have hline : (rowLine row).getLast? = cell.toList.getLast? :=
    Text.getLast?_joinWith (by rw [List.getLast?_map, hcell]; rfl) hfull
  have hlast : ((t.headers :: t.rows).map rowLine).getLast? = some (rowLine row) := by
    rw [List.getLast?_map, hrow]
    rfl
  have hnonempty : rowLine row ≠ [] := by
    intro hempty
    rw [hempty] at hline
    exact hfull (List.getLast?_eq_none_iff.1 hline.symm)
  rw [lines, Text.getLast?_joinWith hlast hnonempty, hline]

/-- A block in the indented layout ends with its bracket. -/
theorem not_endsLine_records (t : Table) : ¬ EndsLine (String.ofList (Json.indented 0 t.records)) := by
  have hlast : (Json.indented 0 t.records).getLast? = some ']' := Json.getLast?_block _ _ _ _
  rw [EndsLine, String.toList_ofList, hlast]
  decide

namespace CommandLine

variable {r : Request} {s : Situation} {v : View} {path : String} {words words' : List String}

/-- The words for credentials are not empty, and they end no line. -/
theorem credentialsText_ends (c : Credentials) :
    credentialsText c ≠ "" ∧ ¬ EndsLine (credentialsText c) := by
  obtain ⟨token, apiKey, basic⟩ := c
  cases token <;> cases apiKey <;> cases basic <;> decide

/-- The last cell of the methods tells credentials or is a header. -/
theorem not_endsLine_methodsTable (v : View) : ¬ EndsLine (String.ofList (methodsTable v).lines) := by
  have hcell : ∃ row cell, ((methodsTable v).headers :: (methodsTable v).rows).getLast? = some row ∧
      row.getLast? = some cell ∧ cell ≠ "" ∧ ¬ EndsLine cell := by
    unfold methodsTable
    rw [List.getLast?_cons, List.getLast?_map]
    -- Without methods the headers are the last row.
    cases v.methods.getLast? with
    | none =>
        exact ⟨_, "Auth", rfl, rfl, by decide, by decide⟩
    | some m =>
        exact ⟨_, _, rfl, rfl, credentialsText_ends m.credentials⟩
  obtain ⟨row, cell, hrow, hcell, hne, hends⟩ := hcell
  rw [EndsLine, String.toList_ofList, Table.getLast?_lines_of_cell hrow hcell hne]
  exact hends

/-- The last definition has a description that ends with a line break. -/
def DescribedToEnd (v : View) : Prop :=
  ∃ d description, v.definitions.getLast? = some d ∧ d.description = some description ∧
    EndsLine description

theorem orDash_ne_empty (s : Option String) : orDash s ≠ "" := by
  unfold orDash
  split
  · split
    · decide
    · rename_i hne
      simpa using hne
  · decide

/-- A cell ends a line only if its text does. -/
theorem endsLine_orDash {s : Option String} (h : EndsLine (orDash s)) :
    ∃ description, s = some description ∧ EndsLine description := by
  unfold orDash at h
  split at h
  · rename_i description
    split at h
    · exact absurd h (by decide)
    · exact ⟨description, rfl, h⟩
  · exact absurd h (by decide)

/-- The last cell of the definitions is a description, a dash or a header. -/
theorem describedToEnd_of_endsLine (h : EndsLine (String.ofList (definitionsTable v).lines)) :
    DescribedToEnd v := by
  rw [EndsLine, String.toList_ofList] at h
  cases hlast : v.definitions.getLast? with
  | none =>
      have hrow : ((definitionsTable v).headers :: (definitionsTable v).rows).getLast? =
          some (definitionsTable v).headers := by
        unfold definitionsTable
        rw [List.getLast?_cons, List.getLast?_map, hlast]
        rfl
      rw [Table.getLast?_lines_of_cell hrow rfl (by decide)] at h
      exact absurd h (by decide)
  | some d =>
      have hrow : ((definitionsTable v).headers :: (definitionsTable v).rows).getLast? =
          some [d.name, d.type, orDash d.description] := by
        unfold definitionsTable
        rw [List.getLast?_cons, List.getLast?_map, hlast]
        rfl
      rw [Table.getLast?_lines_of_cell hrow rfl (orDash_ne_empty _)] at h
      obtain ⟨description, hdescription, hends⟩ := endsLine_orDash h
      exact ⟨d, description, hlast, hdescription, hends⟩

/-- Only a rendered text and a plain table of definitions may end with a line break. -/
theorem endsLine_of_shown {command : Command} {render : Renderer} {templates : TemplateTexts}
    {shown : Shown} {format : Format} (hshown : command.shown render templates v = .ok shown) :
    EndsLine (shown.data.written format) →
      command = .render ∨ command = .definitions ∧ format ≠ .json ∧ DescribedToEnd v := by
  intro h
  cases command with
  | view =>
      obtain ⟨_, _, hdata⟩ := shown_view hshown
      -- A document in JSON ends with a brace.
      have hlast : (Json.indented 0 v.form).getLast? = some '\x7d' := Json.getLast?_block _ _ _ _
      rw [hdata, Data.written, EndsLine, String.toList_ofList, hlast] at h
      exact absurd h (by decide)
  | methods =>
      cases hshown
      cases format with
      | json =>
          exact absurd h (not_endsLine_records _)
      | _ =>
          exact absurd h (not_endsLine_methodsTable v)
  | definitions =>
      cases hshown
      cases format with
      | json =>
          exact absurd h (not_endsLine_records _)
      | plain =>
          -- The last cell of a plain table is a description, which may hold any text.
          exact Or.inr ⟨rfl, by decide, describedToEnd_of_endsLine h⟩
      | rich =>
          exact Or.inr ⟨rfl, by decide, describedToEnd_of_endsLine h⟩
  | render =>
      exact Or.inl rfl

/-! ## The same run with a file -/

theorem file?_of_none (hnone : r.general.file = none) : r.general.output.file? = none := by
  rw [Output.file?, General.output, hnone]
  rfl

/-- A request sent to a file has this file. -/
theorem file?_toFile (hpath : path ≠ "") : (r.toFile path).general.output.file? = some path := by
  have hfull : path.isEmpty = false := by simpa using hpath
  simp [Output.file?, General.output, Request.toFile, hfull]

/-- What a run shows does not depend on the file that it names, and needs no place without one. -/
theorem outcome_of_toFile (hnone : r.general.file = none) {shown : Shown} :
    (r.toFile path).outcome s = .ok shown → r.outcome s = .ok shown := by
  intro h
  -- The file is looked at only when data is printed.
  have hshown : ((r.toFile path).shown s).2 = (r.shown s).2 := by
    rw [shown_snd, shown_snd, build_snd, build_snd]
    rfl
  have hcan : canPrint r.general.output s = true := by
    rw [canPrint, file?_of_none hnone]
  rw [outcome_eq, hshown, bind_eq_ok_iff] at h
  obtain ⟨shown', hshown', h⟩ := h
  split at h
  · cases h
    rw [outcome_eq, hshown', ok_bind, if_pos hcan]
    rfl
  · cases h

/-- A run that delivers its data to a file succeeds without the file, too.  What it prints then is the content
of the file iff the data does not end with a line break itself; standard output gets one more otherwise.  Of
all data only rendered texts can end so, and tables of definitions whose last description does. -/
theorem file_eq_stdout_iff (hread : Invocation.read words = .ok (.run r))
    (hread' : Invocation.read words' = .ok (.run (r.toFile path))) (hnone : r.general.file = none)
    (hpath : path ≠ "") (hzero : (run s words').exitCode = 0) :
    (run s words).exitCode = 0 ∧ ∃ v shown text, (r.build s).2 = .ok v ∧ r.outcome s = .ok shown ∧
      text = shown.data.written r.general.output.format ∧
      (run s words).printed.stdout = text ++ "\n" ∧
      (run s words').printed.file = some (endLine text) ∧
      ((run s words').printed.file = some (run s words).printed.stdout ↔ ¬ EndsLine text) ∧
      (EndsLine text → r.command = .render ∨
        r.command = .definitions ∧ r.general.output.format ≠ .json ∧ DescribedToEnd v) := by
  rw [run_of_read hread'] at hzero ⊢
  rw [run_of_read hread]
  obtain ⟨shown, houtcome', hdelivers'⟩ := shown_of_exitCode hzero
  -- Both runs show the same data; they differ in where it goes.
  have houtcome := outcome_of_toFile hnone houtcome'
  obtain ⟨hzero', hdelivers⟩ := report_of_ok houtcome
  obtain ⟨templates, v, hbuild, hshown⟩ := exists_view_of_outcome houtcome
  unfold Output.Delivers at hdelivers hdelivers'
  rw [file?_of_none hnone] at hdelivers
  rw [file?_toFile hpath] at hdelivers'
  obtain ⟨hstdout, -⟩ := hdelivers
  obtain ⟨-, hfile⟩ := hdelivers'
  -- A file does not change the format.
  have hformat : (r.toFile path).general.output.format = r.general.output.format := rfl
  rw [hformat] at hfile
  refine ⟨hzero', v, shown, _, hbuild, houtcome, rfl, hstdout, hfile, ?_, endsLine_of_shown hshown⟩
  rw [hfile, hstdout, Option.some.injEq]
  exact endLine_eq_iff _

/-- A request to render a template for the methods on standard input, and its words. -/
def rendering : Request :=
  ⟨{}, .render, "-", { className := some "Pets", template := some "client.txt" }⟩

def renderingWords : List String :=
  ["render", "-", "--class-name", "Pets", "--template", "client.txt"]

/-- A run with a template and a document that has a single operation. -/
def templated (template : String) : Situation :=
  { files := [(⟨"", [projectFile]⟩, Text.utf8Bytes "\x7b\x7d"),
      (⟨"", ["client.txt"]⟩, Text.utf8Bytes template)]
    input := singleOperation }

/-- A template that does not end with a line break, though it holds one. -/
def openTemplate : String :=
  "class\n  \x7b\x7b className \x7d\x7d"

theorem openTemplate_file_eq_stdout :
    Invocation.read renderingWords = .ok (.run rendering) ∧
      (run (templated openTemplate) ("-o" :: "pets.js" :: renderingWords)).exitCode = 0 ∧
      (run (templated openTemplate) renderingWords).exitCode = 0 ∧
      (run (templated openTemplate) renderingWords).printed.stdout = "class\n  Pets\n" ∧
      (run (templated openTemplate) ("-o" :: "pets.js" :: renderingWords)).printed.file =
        some (run (templated openTemplate) renderingWords).printed.stdout := by
  have hread : Invocation.read renderingWords = .ok (.run rendering) := by decide +kernel
  have hread' := read_output hread rfl "pets.js"
  have hzero : (run (templated openTemplate) ("-o" :: "pets.js" :: renderingWords)).exitCode = 0 := by
    decide +kernel
  obtain ⟨hzero', v, shown, text, _, _, _, hstdout, _, hiff, _⟩ :=
    file_eq_stdout_iff hread hread' rfl (by decide) hzero
  have hprinted : (run (templated openTemplate) renderingWords).printed.stdout =
      "class\n  Pets" ++ "\n" := by
    decide +kernel
  have htext : text = "class\n  Pets" := by
    have hchars := congrArg String.toList (hstdout.symm.trans hprinted)
    rw [String.toList_append, String.toList_append] at hchars
    exact String.toList_inj.1 (List.append_cancel_right hchars)
  refine ⟨hread, hzero, hzero', hprinted, hiff.2 ?_⟩
  rw [htext]
  decide

/-- A template that ends with a line break gets another one on standard output, but none in a file. -/
theorem endedTemplate_file_ne_stdout :
    Invocation.read renderingWords = .ok (.run rendering) ∧
      Invocation.read ("-o" :: "pets.js" :: renderingWords) = .ok (.run (rendering.toFile "pets.js")) ∧
      (run (templated "x\n") ("-o" :: "pets.js" :: renderingWords)).exitCode = 0 ∧
      (run (templated "x\n") renderingWords).exitCode = 0 ∧
      (run (templated "x\n") ("-o" :: "pets.js" :: renderingWords)).printed.file = some "x\n" ∧
      (run (templated "x\n") renderingWords).printed.stdout = "x\n\n" := by
  have hread : Invocation.read renderingWords = .ok (.run rendering) := by decide +kernel
  refine ⟨hread, read_output hread rfl "pets.js", ?_, ?_, ?_, ?_⟩
  all_goals
    decide +kernel

end CommandLine
end ApiView
