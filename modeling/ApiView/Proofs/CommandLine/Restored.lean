import ApiView.Proofs.CommandLine.Delivery
import ApiView.Proofs.Json.Indented
import ApiView.Proofs.View.Forms

/-!
# Restored — a printed view is read back as it was

What the command for views delivers is the indented layout of the form that templates see.  Read as a
document it is that form again, member by member, unless the form holds a double or a half of a surrogate
pair:

* `Output.delivered`: the text that a run left where its data belongs;
* `shown_view`: the command shows the form of the view;
* `view_restored`: what it delivers is read back as that form.
-/

namespace ApiView

/-! ## Lines that end a text -/

namespace Json

/-- A block ends with its closing bracket. -/
theorem getLast?_block (opening closing : Char) (depth : Nat) (texts : List (List Char)) :
    (block opening closing depth texts).getLast? = some closing := by
  unfold block
  split
  · rfl
  · rw [← List.cons_append, List.getLast?_append]
    rfl

/-- A mapping in the indented layout lacks a line break at its end. -/
theorem endLine_indented (entries : Entries) :
    endLine (String.ofList (indented 0 (.map entries))) =
      String.ofList (indented 0 (.map entries)) ++ "\n" := by
  have hlast : (indented 0 (.map entries)).getLast? = some '\x7d' := getLast?_block _ _ _ _
  rw [endLine, String.toList_ofList, hlast, if_neg (by decide)]

end Json

/-- The document in a text that JSON can be read from. -/
theorem readContent_of_read {text : List Char} {entries : Entries} :
    Json.read text = .ok (.map entries) → readContent .json text = .ok entries := by
  intro h
  rw [readContent, if_neg (by decide), readJson, h]
  rfl

/-- The text that a run left where its data belongs. -/
def Output.delivered (o : Output) (p : Printed) : Option String :=
  match o.file? with
  | some _ => p.file
  | none => some p.stdout

/-- A mapping that is delivered is followed by a line break, wherever it goes. -/
theorem Output.delivered_of_delivers {o : Output} {entries : Entries} {p : Printed} :
    o.Delivers (String.ofList (Json.indented 0 (.map entries))) p →
      o.delivered p = some (String.ofList (Json.indented 0 (.map entries)) ++ "\n") := by
  intro h
  unfold Output.Delivers at h
  unfold Output.delivered
  cases hfile : o.file? with
  | none =>
      rw [hfile] at h
      exact congrArg some h.1
  | some path =>
      rw [hfile] at h
      rw [← Json.endLine_indented]
      exact h.2

namespace CommandLine

/-! ## The data of the command -/

theorem writable_eq_ok {form v : Value} :
    writable form = .ok v → Json.obstacle? form = none ∧ v = form := by
  intro h
  rw [writable] at h
  cases hobstacle : Json.obstacle? form with
  | none =>
      rw [hobstacle] at h
      cases h
      exact ⟨rfl, rfl⟩
  | some obstacle =>
      rw [hobstacle] at h
      cases h

/-- The command for views shows the form that templates see, if JSON can be written of it. -/
theorem shown_view {render : Renderer} {templates : TemplateTexts} {v : View} {shown : Shown} :
    Command.view.shown render templates v = .ok shown →
      v.handed = .ok v.form ∧ Json.obstacle? v.form = none ∧ shown.data = .document v.form := by
  intro h
  rw [Command.shown, bind_eq_ok_iff] at h
  obtain ⟨form, hhanded, h⟩ := h
  obtain ⟨-, rfl⟩ := View.handed_eq_ok hhanded
  obtain ⟨written, hwritable, h⟩ := bind_eq_ok_iff.1 h
  obtain ⟨hfree, rfl⟩ := writable_eq_ok hwritable
  cases h
  exact ⟨hhanded, hfree, rfl⟩

section Runs

variable {r : Request} {s : Situation}

/-- Something is shown of the view that a request is about. -/
theorem exists_view_of_outcome {shown : Shown} :
    r.outcome s = .ok shown →
      ∃ templates v, (r.build s).2 = .ok v ∧ r.command.shown s.render templates v = .ok shown := by
  intro h
  rw [outcome_eq, bind_eq_ok_iff] at h
  obtain ⟨shown', hshown, hprint⟩ := h
  split at hprint
  · cases hprint
    rw [shown_snd, bind_eq_ok_iff] at hshown
    obtain ⟨templates, -, hshown⟩ := hshown
    obtain ⟨v, hbuild, hshown⟩ := bind_eq_ok_iff.1 hshown
    exact ⟨templates, v, hbuild, hshown⟩
  · cases hprint

/-- A run that succeeds in showing a view delivers the lines of the form that templates see.  Read as JSON
they are that form, with the same members in the same order, if it holds no double and no half of a
surrogate pair. -/
theorem view_restored {words : List String} (hread : Invocation.read words = .ok (.run r))
    (hview : r.command = .view) (hzero : (run s words).exitCode = 0) :
    ∃ v entries text, (r.build s).2 = .ok v ∧ v.handed = .ok (.map entries) ∧
      r.general.output.delivered (run s words).printed = some text ∧
      text = String.ofList (Json.indented 0 (.map entries)) ++ "\n" ∧
      ((Value.map entries).isExact = true → readContent .json text.toList = .ok entries) := by
  rw [run_of_read hread] at hzero ⊢
  obtain ⟨shown, houtcome, hdelivers⟩ := shown_of_exitCode hzero
  obtain ⟨templates, v, hbuild, hshown⟩ := exists_view_of_outcome houtcome
  rw [hview] at hshown
  obtain ⟨hhanded, hwritable, hdata⟩ := shown_view hshown
  -- The form of a view is a mapping, so its lines end with a brace, and a line break is put behind it.
  obtain ⟨entries, hform⟩ : ∃ entries, v.form = .map entries := ⟨_, rfl⟩
  have hjson : v.form.JsonIfExact := View.jsonIfExact_form (View.handed_eq_ok hhanded).1
  rw [hform] at hhanded hwritable hdata hjson
  rw [hdata] at hdelivers
  refine ⟨v, entries, _, hbuild, hhanded, Output.delivered_of_delivers hdelivers, rfl, fun hexact => ?_⟩
  refine readContent_of_read ?_
  rw [String.toList_append, String.toList_ofList]
  exact Json.read_indented (hjson hexact) hwritable (Json.blanks_lineBreak 0)

end Runs

/-- A request for a view on standard output, and its words. -/
def viewing : Request := ⟨{}, .view, "-", { className := some "P\u2028\"x\"" }⟩

def viewingWords : List String := ["view", "--class-name", "P\u2028\"x\"", "-"]

/-- A document in writing, with escapes and with nested containers in a default, some of them empty. -/
def nestedDocument : String :=
  "\x7b\"swagger\":\"2.0\",\"paths\":\x7b\"/p\":\x7b\"get\":\x7b\"parameters\":[\x7b\"name\":\"q\",\"in\":\"query\"," ++
    "\"default\":\x7b\"\u00e9\\\"\":[\x7b\x7d,[],-2],\"\":[true,\"\\u2028\\ud83d\\ude00\\t\"]\x7d\x7d]\x7d\x7d\x7d\x7d"

theorem exact_nestedDocument {v : View} :
    (viewing.build (piped nestedDocument)).2 = .ok v → v.form.isExact = true := by
  intro hbuild
  have hrun : (viewing.build (piped nestedDocument)).2.toOption.map (fun v => v.form.isExact) =
      some true := by
    decide +kernel
  rw [hbuild] at hrun
  exact Option.some.inj hrun

/-- The form of the view, which holds no double and no half of a surrogate pair, is read back. -/
theorem nestedDocument_view_restored :
    Invocation.read viewingWords = .ok (.run viewing) ∧ viewing.command = .view ∧
      (run (piped nestedDocument) viewingWords).exitCode = 0 ∧
      ∃ v entries text, (viewing.build (piped nestedDocument)).2 = .ok v ∧
        v.handed = .ok (.map entries) ∧
        viewing.general.output.delivered (run (piped nestedDocument) viewingWords).printed =
          some text ∧
        text = String.ofList (Json.indented 0 (.map entries)) ++ "\n" ∧
        (Value.map entries).isExact = true ∧ readContent .json text.toList = .ok entries := by
  have hread : Invocation.read viewingWords = .ok (.run viewing) := by decide +kernel
  have hzero : (run (piped nestedDocument) viewingWords).exitCode = 0 := by decide +kernel
  obtain ⟨v, entries, text, hbuild, hhanded, hdelivered, htext, hrestored⟩ :=
    view_restored hread rfl hzero
  have hexact : (Value.map entries).isExact = true := by
    rw [(View.handed_eq_ok hhanded).2]
    exact exact_nestedDocument hbuild
  exact ⟨hread, rfl, hzero, v, entries, text, hbuild, hhanded, hdelivered, htext, hexact,
    hrestored hexact⟩

end CommandLine
end ApiView
