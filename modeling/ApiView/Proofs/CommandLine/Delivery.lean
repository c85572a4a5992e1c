import ApiView.CommandLine.Run
import ApiView.Proofs.Outcomes

/-!
# Delivery — a run shows its data once or not at all

A command can fail at any stage: a template or the project file is not readable, the document cannot be
loaded or built, the file for the data cannot be opened.  Diagnostics are printed on the way, data is
printed last:

* `Request.outcome`: the stages of a command in order, without anything that is printed;
* `Printed.Silent`, `Output.Delivers`: nothing but diagnostics, and one text where data belongs;
* `report_of_error`, `report_of_ok`: the report on a command, by its outcome;
* `run_all_or_nothing`: a run that fails delivers nothing, one that succeeds delivers its data once.
-/

namespace ApiView

/-! ## Printing -/

/-- Nothing but diagnostics. -/
structure Printed.Silent (p : Printed) : Prop where
  stdout : p.stdout = ""
  file : p.file = none

/-- A text is where data belongs: alone in the file that the output names, with a line break at its end,
or else alone on standard output, with a line break behind it. -/
def Output.Delivers (o : Output) (text : String) (p : Printed) : Prop :=
  match o.file? with
  | some _ => p.stdout = "" ∧ p.file = some (endLine text)
  | none => p.stdout = text ++ "\n" ∧ p.file = none

namespace Printed

theorem silent_empty : Silent {} := ⟨rfl, rfl⟩

theorem silent_diagnostics (lines : List String) : (diagnostics lines).Silent := ⟨rfl, rfl⟩

/-- Silent pieces of printing make a silent whole. -/
theorem Silent.andThen {a b : Printed} : a.Silent → b.Silent → (a.andThen b).Silent := by
  intro ha hb
  refine ⟨?_, ?_⟩
  · rw [Printed.andThen, ha.stdout, hb.stdout, String.append_empty]
  · rw [Printed.andThen, ha.file, hb.file]
    rfl

end Printed

namespace Output

variable (o : Output)

/-- A diagnostic leaves the data alone. -/
theorem silent_tell (notice : Notice) : (o.tell notice).Silent := by
  unfold tell
  split
  · exact Printed.silent_diagnostics _
  · exact Printed.silent_empty

/-- Data is delivered as it is written. -/
theorem delivers_print (data : Data) : o.Delivers (data.written o.format) (o.print data) := by
  unfold Delivers print
  cases o.file? with
  | none =>
      exact ⟨rfl, rfl⟩
  | some path =>
      exact ⟨rfl, rfl⟩

variable {o}

/-- Diagnostics before and after it do not touch what is delivered. -/
theorem Delivers.around {text : String} {before p after : Printed} (hbefore : before.Silent)
    (h : o.Delivers text p) (hafter : after.Silent) :
    o.Delivers text ((before.andThen p).andThen after) := by
  have hstdout : ((before.andThen p).andThen after).stdout = p.stdout := by
    rw [Printed.andThen, Printed.andThen, hbefore.stdout, hafter.stdout, String.append_empty,
      String.empty_append]
  have hfile : ((before.andThen p).andThen after).file = p.file := by
    rw [Printed.andThen, Printed.andThen, hbefore.file, hafter.file]
    cases p.file <;> rfl
  unfold Delivers at h ⊢
  rw [hstdout, hfile]
  exact h

end Output

namespace CommandLine

theorem silent_tellAll (o : Output) (notices : List Notice) : (tellAll o notices).Silent := by
  -- Notices are put together from the left, so the induction is for any start that is silent.
  have hfold : ∀ (notices : List Notice) (before : Printed), before.Silent →
      ((notices.map o.tell).foldl Printed.andThen before).Silent := by
    intro notices
    induction notices with
    | nil =>
        exact fun _ hbefore => hbefore
    | cons notice rest ih =>
        exact fun before hbefore => ih _ (hbefore.andThen (o.silent_tell notice))
  exact hfold notices {} Printed.silent_empty

/-! ## Stages -/

/-- The stages of a command in order: templates, options, the document, its view, what the command shows
of it, and a place to put that. -/
def Request.outcome (r : Request) (s : Situation) : Except Failure Shown := do
  let templates ← r.templates s.files
  let (options, target) ← r.settings s
  let document ← load s.toSurroundings r.source
  let view ← (buildView (.map document) options (.str target.word)).outcome
  let shown ← r.command.shown s.render templates view
  if canPrint r.general.output s then return shown else throw (.defect .unopenedFile)

section Reports

variable {r : Request} {s : Situation}

/-- The view of a request, through its stages. -/
theorem build_snd (r : Request) (s : Situation) :
    (r.build s).2 = (do
      let (options, target) ← r.settings s
      let document ← load s.toSurroundings r.source
      (buildView (.map document) options (.str target.word)).outcome) := by
  unfold Request.build
  cases r.settings s with
  | error e =>
      rfl
  | ok settings =>
      rcases settings with ⟨options, target⟩
      simp only [ok_bind]
      cases load s.toSurroundings r.source <;> rfl

/-- Building a view prints diagnostics only. -/
theorem silent_build (r : Request) (s : Situation) : (r.build s).1.Silent := by
  unfold Request.build
  cases r.settings s with
  | error e =>
      exact Printed.silent_empty
  | ok settings =>
      rcases settings with ⟨options, target⟩
      dsimp only
      cases load s.toSurroundings r.source with
      | error e =>
          exact Output.silent_tell _ _
      | ok document =>
          exact (Output.silent_tell _ _).andThen (Printed.silent_diagnostics _)

theorem silent_shown (r : Request) (s : Situation) : (r.shown s).1.Silent := by
  unfold Request.shown
  cases r.templates s.files with
  | error e =>
      exact Printed.silent_empty
  | ok templates =>
      exact silent_build r s

/-- What a command shows is of the view that its request is about. -/
theorem shown_snd (r : Request) (s : Situation) :
    (r.shown s).2 = (do
      let templates ← r.templates s.files
      let view ← (r.build s).2
      r.command.shown s.render templates view) := by
  unfold Request.shown
  cases r.templates s.files <;> rfl

/-- What a command shows goes through all of its stages but the last one. -/
theorem outcome_eq (r : Request) (s : Situation) :
    r.outcome s = (do
      let shown ← (r.shown s).2
      if canPrint r.general.output s then return shown else throw (.defect .unopenedFile)) := by
  simp only [Request.outcome, shown_snd, build_snd, bind_assoc]

/-- The report of a command that has nothing to show. -/
theorem run_of_shown_error {e : Failure} :
    (r.shown s).2 = .error e → r.run s = failed r.general.output (r.shown s).1 e := by
  intro h
  simp only [Request.run, h]

/-- The report of a command that has something to show. -/
theorem run_of_shown_ok {shown : Shown} (h : (r.shown s).2 = .ok shown) :
    r.run s =
      let said := (r.shown s).1.andThen (tellAll r.general.output shown.before)
      if canPrint r.general.output s then
        ⟨0, (said.andThen (r.general.output.print shown.data)).andThen
          (tellAll r.general.output shown.after)⟩
      else failed r.general.output said (.defect .unopenedFile) := by
  simp only [Request.run, h]

/-- A command that fails reports the failure, and delivers nothing. -/
theorem report_of_error {e : Failure} :
    r.outcome s = .error e → (r.run s).exitCode = e.exitCode ∧ (r.run s).printed.Silent := by
  intro h
  have hsilent := silent_shown r s
  rw [outcome_eq] at h
  cases hshown : (r.shown s).2 with
  | error e' =>
      rw [hshown] at h
      cases h
      rw [run_of_shown_error hshown]
      exact ⟨rfl, hsilent.andThen (Output.silent_tell _ _)⟩
  | ok shown =>
      -- Only the place for the data is missing.
      rw [hshown, ok_bind] at h
      rw [run_of_shown_ok hshown]
      by_cases hprint : canPrint r.general.output s = true
      · rw [if_pos hprint] at h
        cases h
      · rw [if_neg hprint] at h
        cases h
        simp only [if_neg hprint]
        exact ⟨rfl, (hsilent.andThen (silent_tellAll _ _)).andThen (Output.silent_tell _ _)⟩

/-- A command that does not fail delivers what it shows. -/
theorem report_of_ok {shown : Shown} :
    r.outcome s = .ok shown →
      (r.run s).exitCode = 0 ∧
        r.general.output.Delivers (shown.data.written r.general.output.format) (r.run s).printed := by
  intro h
  have hsilent := silent_shown r s
  rw [outcome_eq, bind_eq_ok_iff] at h
  obtain ⟨shown', hshown, hprint⟩ := h
  rw [run_of_shown_ok hshown]
  by_cases hcan : canPrint r.general.output s = true
  · rw [if_pos hcan] at hprint
    cases hprint
    simp only [if_pos hcan]
    refine ⟨trivial, ?_⟩
    exact (Output.delivers_print _ _).around (hsilent.andThen (silent_tellAll _ _)) (silent_tellAll _ _)
  · rw [if_neg hcan] at hprint
    cases hprint

/-! ## Exit codes -/

/-- No failure ends a run with success. -/
theorem exitCode_ne_zero (e : Failure) : e.exitCode ≠ 0 := by
  cases e <;> simp [Failure.exitCode]

/-- A failure without words of its own leads to the exit code of everything unexpected. -/
theorem exitCode_of_unreported {e : Failure} : e.isReported = false → e.exitCode = 1 := by
  intro h
  cases e with
  | invalid _ _ =>
      rfl
  | defect _ =>
      rfl
  | _ =>
      cases h

/-! ## Runs -/

/-- A command with an exit code other than zero failed. -/
theorem failed_of_exitCode (h : (r.run s).exitCode ≠ 0) :
    (r.run s).printed.Silent ∧ ∃ e, r.outcome s = .error e ∧ (r.run s).exitCode = e.exitCode := by
  cases houtcome : r.outcome s with
  | error e =>
      obtain ⟨hcode, hsilent⟩ := report_of_error houtcome
      exact ⟨hsilent, e, rfl, hcode⟩
  | ok shown =>
      exact absurd (report_of_ok houtcome).1 h

/-- A command with the exit code zero showed something. -/
theorem shown_of_exitCode (h : (r.run s).exitCode = 0) :
    ∃ shown, r.outcome s = .ok shown ∧
      r.general.output.Delivers (shown.data.written r.general.output.format) (r.run s).printed := by
  cases houtcome : r.outcome s with
  | error e =>
      exact absurd ((report_of_error houtcome).1.symm.trans h) (exitCode_ne_zero e)
  | ok shown =>
      exact ⟨shown, rfl, (report_of_ok houtcome).2⟩

/-- A command line that is read as a request runs it. -/
theorem run_of_read {words : List String} (hread : Invocation.read words = .ok (.run r)) :
    run s words = r.run s := by
  simp only [run, hread]

/-- A run that fails prints diagnostics only and leaves the file alone, with the exit code of its failure;
a run that succeeds prints its data once, to the file if it names one and to standard output otherwise. -/
theorem run_all_or_nothing {words : List String} (hread : Invocation.read words = .ok (.run r)) :
    ((run s words).exitCode ≠ 0 →
      (run s words).printed.Silent ∧ ∃ e, r.outcome s = .error e ∧
        (run s words).exitCode = if e.isReported then e.exitCode else 1) ∧
    ((run s words).exitCode = 0 →
      ∃ shown, r.outcome s = .ok shown ∧
        r.general.output.Delivers (shown.data.written r.general.output.format)
          (run s words).printed) := by
  rw [run_of_read hread]
  refine ⟨fun hne => ?_, shown_of_exitCode⟩
  obtain ⟨hsilent, e, houtcome, hcode⟩ := failed_of_exitCode hne
  refine ⟨hsilent, e, houtcome, ?_⟩
  cases hreported : e.isReported with
  | true =>
      exact hcode
  | false =>
      exact hcode.trans (exitCode_of_unreported hreported)

end Reports

/-- A request for a list of methods in a file, and its words. -/
def listing : Request := ⟨{ file := some "methods.txt" }, .methods, "-", {}⟩

def listingWords : List String := ["-o", "methods.txt", "methods", "-"]

/-- A run with an empty project file and some standard input. -/
def piped (input : String) : Situation :=
  { files := [(⟨"", [projectFile]⟩, Text.utf8Bytes "\x7b\x7d")]
    input := input }

/-- A document with a single operation, in writing. -/
def singleOperation : String :=
  "\x7b\"swagger\": \"2.0\", \"paths\": \x7b\"/pets\": \x7b\"get\": \x7b\x7d\x7d\x7d\x7d"

theorem listing_all_or_nothing :
    Invocation.read listingWords = .ok (.run listing) ∧
      ((run (piped "") listingWords).printed.Silent ∧
        ∃ e, listing.outcome (piped "") = .error e ∧
          (run (piped "") listingWords).exitCode = if e.isReported then e.exitCode else 1) ∧
      ∃ shown, listing.outcome (piped singleOperation) = .ok shown ∧
        listing.general.output.Delivers (shown.data.written listing.general.output.format)
          (run (piped singleOperation) listingWords).printed := by
  have hread : Invocation.read listingWords = .ok (.run listing) := by decide +kernel
  refine ⟨hread, ?_, ?_⟩
  · exact (run_all_or_nothing hread).1 (by decide +kernel)
  · exact (run_all_or_nothing hread).2 (by decide +kernel)

end CommandLine
end ApiView
