import ApiView.CommandLine.Request
import ApiView.Options.Resolve
import ApiView.Proofs.Options.Fields
import ApiView.Proofs.Outcomes

/-!
# Precedence — the first layer that gives an option wins

The command line comes before the environment, the environment before the project file, and that before
the defaults.  Every field is chosen on its own, although the layers meet in two readings: what the lower
layers make of a field is written out and read again with the upper layers over it.  No layer hides what
is wrong with a lower one:

* `Options.chosen`, `Target.chosen`: the value of a field, and the target, by precedence;
* `WellTyped`: options of their kinds on the command line, as the commands give them;
* `value_settings`, `member?_updates`: what the project file and the upper layers set a field to;
* `resolveOptions_eq`: the steps of resolution, from the lowest layer up;
* `Misconfigured`: something is wrong with the project file or the target in the environment;
* `resolved_by_precedence`: resolution chooses by precedence, and refuses what is wrong.
-/

namespace ApiView

/-! ## Layers -/

namespace Options

/-- The members of a project file that are options. -/
def settings (project : Entries) : Entries :=
  project.filter fun (key, _) => !key.same (.str "target")

/-- Options on the command line: every one is a field, and null or of its kind. -/
structure WellTyped (cli : Entries) : Prop where
  named : cli.Named
  typed : ∀ entry ∈ cli, ∃ field ∈ typedFields,
    entry.1 = .str field.1.snake ∧ (entry.2.isNull = true ∨ field.2.Has entry.2)

/-- The variable that sets a field. -/
def Field.variable? (f : Field) : Option String :=
  if f = classNameField then some Environment.classNameVariable
  else if f = moduleNameField then some Environment.moduleNameVariable
  else none

/-- What the variables set a field to. -/
def Field.setting? (f : Field) (vars : List (String × String)) : Option Value :=
  f.variable?.bind fun name => (Environment.setting? vars name).map .str

/-- The value of a field by precedence: from the command line where it is not null, else from the
environment, else from the project file, else the default. -/
def chosen (project : Entries) (vars : List (String × String)) (cli : Entries)
    (field : Field × Kind) : Value :=
  let given := (cli.member? field.1.snake).filter fun v => !v.isNull
  let configured := (field.1.givenValue? project).map field.2.kept
  (given.or ((field.1.setting? vars).or configured)).getD
    (({} : Options).form.member field.1.snake)

end Options

/-- The target by precedence, as the value that names it. -/
def Target.chosen (project : Entries) (vars : List (String × String)) (cli : Option String) : Value :=
  let setting := (Environment.setting? vars Environment.targetVariable).map Value.str
  ((cli.map .str).or (setting.or (project.member? "target"))).getD (.str Target.custom.word)

namespace Options

/-- Something is wrong below the command line: the project file names an unknown target or has options
that are refused, or the environment names an unknown target. -/
def Misconfigured (project : Entries) (vars : List (String × String)) : Prop :=
  (∃ v, project.member? "target" = some v ∧ ∀ target : Target, v ≠ .str target.word) ∨
    (∃ found, readEntries (settings project) = .error found) ∨
    ∃ s, Environment.setting? vars Environment.targetVariable = some s ∧
      ∀ target : Target, s ≠ target.word

/-! ## The project file -/

/-- What a project file holds is readable. -/
theorem readable_of_loadProject {files : Files} {project : Option Entries} :
    loadProject files = .ok project → (Value.map (project.getD [])).Readable := by
  intro h
  have hnone : (Value.map []).Readable := Value.readable_map_iff.2 fun entry hentry => nomatch hentry
  unfold loadProject at h
  -- Without a file there are no members, and a file that is read is JSON.
  split at h
  · cases h
    exact hnone
  · split at h
    · rename_i text _
      cases hread : Json.read text with
      | error fault =>
          rw [readProject, hread] at h
          dsimp only at h
          split at h <;> cases h
      | ok v =>
          cases v with
          | map entries =>
              rw [readProject, hread] at h
              cases h
              exact Json.readable_of_read hread
          | _ =>
              rw [readProject, hread] at h
              cases h
    · cases h

/-- The options of a project are its members but for the target. -/
theorem member?_settings (project : Entries) {name : String} (hname : name ≠ "target") :
    (settings project).member? name = project.member? name := by
  have hkeep : (!(Scalar.str name).same (.str "target")) = true := by
    rw [Bool.not_eq_true', ← Bool.not_eq_true, Scalar.same_str_iff]
    exact fun heq => hname (Scalar.str.inj heq)
  exact Entries.member?_filter (fun key => !key.same (.str "target")) hkeep project

/-- No field is called like the target. -/
theorem ne_target : ∀ field ∈ typedFields, field.1.camel ≠ "target" ∧ field.1.snake ≠ "target" := by
  decide

/-- A project gives a field with or without its target. -/
theorem givenValue?_settings (project : Entries) {field : Field × Kind} (hfield : field ∈ typedFields) :
    field.1.givenValue? (settings project) = field.1.givenValue? project := by
  obtain ⟨hcamel, hsnake⟩ := ne_target field hfield
  rw [Field.givenValue?, member?_settings project hcamel, member?_settings project hsnake]
  rfl

/-- Where nothing is given, every field has its default. -/
theorem member_default :
    ∀ field ∈ typedFields, ({} : Options).form.member field.1.snake = field.2.default := by
  decide

/-- What a valid project file makes of a field. -/
theorem value_settings {project : Entries} {options : Options}
    (hreadable : (Value.map project).Readable)
    (h : readEntries (settings project) = .ok options) {field : Field × Kind}
    (hfield : field ∈ typedFields) :
    field.2.value field.1 (settings project) =
      ((field.1.givenValue? project).map field.2.kept).getD
        (({} : Options).form.member field.1.snake) := by
  have hproblems := (readEntries_eq_ok h).2 field hfield
  rw [member_default field hfield, ← givenValue?_settings project hfield]
  -- What the file gives was read from JSON, under either spelling.
  refine Kind.value_eq_kept (fun v hgiven => ?_) hproblems
  rw [givenValue?_settings project hfield, Field.givenValue?, Option.or_eq_some_iff] at hgiven
  rcases hgiven with hcamel | ⟨-, hsnake⟩
  · exact (Value.readable_map_iff.1 hreadable _ (Entries.mem_of_member? hcamel)).2
  · exact (Value.readable_map_iff.1 hreadable _ (Entries.mem_of_member? hsnake)).2

/-! ## The upper layers -/

/-- The variables set every option at most once. -/
theorem named_updates (env : Environment) : env.updates.Named := by
  unfold Environment.updates
  cases env.className <;> cases env.moduleName <;> refine ⟨?_, ?_⟩
  all_goals
    simp [Entries.keys, classNameField, moduleNameField]

theorem member?_toList (name other : String) (s : Option String) :
    Entries.member? (s.map fun s => (Scalar.str name, Value.str s)).toList other =
      if name = other then s.map Value.str else none := by
  cases s with
  | none =>
      split <;> rfl
  | some s =>
      split
      · rename_i heq
        subst heq
        exact Entries.member?_cons_self name _ []
      · rename_i hne
        exact Entries.member?_cons_of_ne (fun heq => hne (Scalar.str.inj heq)) _ []

theorem snake_eq_iff :
    ∀ field ∈ typedFields, (classNameField.snake = field.1.snake ↔ field.1 = classNameField) ∧
      (moduleNameField.snake = field.1.snake ↔ field.1 = moduleNameField) := by
  decide

/-- What the environment sets a field to. -/
theorem member?_environment (vars : List (String × String)) {field : Field × Kind}
    (hfield : field ∈ typedFields) :
    (Environment.ofVariables vars).updates.member? field.1.snake = field.1.setting? vars := by
  obtain ⟨hclass, hmodule⟩ := snake_eq_iff field hfield
  rw [Environment.updates, Entries.member?_append, member?_toList, member?_toList, Field.setting?,
    Field.variable?]
  simp only [hclass, hmodule]
  by_cases hfirst : field.1 = classNameField
  · have hsecond : field.1 ≠ moduleNameField := by
      rw [hfirst]
      decide
    rw [if_pos hfirst, if_pos hfirst, if_neg hsecond, Option.or_none]
    rfl
  · rw [if_neg hfirst, if_neg hfirst, Option.none_or]
    split <;> rfl

/-- What the command line sets a field to. -/
theorem member?_givenOptions {cli : Entries} (hcli : cli.Named) (name : String) :
    (givenOptions cli).member? name = (cli.member? name).filter fun v => !v.isNull := by
  ext v
  rw [givenOptions, Entries.member?_eq_some_iff (hcli.filter _), List.mem_filter,
    Option.filter_eq_some_iff, Entries.member?_eq_some_iff hcli]

section Upper

variable {vars : List (String × String)} {cli : Entries}

/-- What is put over the options of the lower layers. -/
theorem updates_of_wellTyped (hcli : WellTyped cli) :
    Updates (Entries.overlay (Environment.ofVariables vars).updates (givenOptions cli)) := by
  have hgiven : (givenOptions cli).Named := hcli.named.filter _
  refine ⟨Entries.named_overlay (named_updates _) hgiven.texts, fun entry hentry => ?_⟩
  rcases Entries.mem_overlay hgiven.texts hentry with hvariable | hoption
  · rcases List.mem_append.1 hvariable with hclass | hmodule
    · obtain ⟨s, -, rfl⟩ := Option.map_eq_some_iff.1 (Option.mem_toList.1 hclass)
      exact ⟨(classNameField, .text), by decide, rfl, .inr ⟨s, rfl⟩⟩
    · obtain ⟨s, -, rfl⟩ := Option.map_eq_some_iff.1 (Option.mem_toList.1 hmodule)
      exact ⟨(moduleNameField, .text), by decide, rfl, .inr ⟨s, rfl⟩⟩
  · obtain ⟨hmem, hnull⟩ := List.mem_filter.1 hoption
    obtain ⟨field, hfield, hkey, hv⟩ := hcli.typed entry hmem
    rw [Bool.not_eq_true'] at hnull
    exact ⟨field, hfield, hkey, hv.resolve_left (Bool.eq_false_iff.1 hnull)⟩

/-- What the upper layers set a field to. -/
theorem member?_updates (hcli : WellTyped cli) {field : Field × Kind} (hfield : field ∈ typedFields) :
    (Entries.overlay (Environment.ofVariables vars).updates (givenOptions cli)).member?
        field.1.snake =
      ((cli.member? field.1.snake).filter fun v => !v.isNull).or (field.1.setting? vars) := by
  have hgiven : (givenOptions cli).Named := hcli.named.filter _
  rw [Entries.member?_overlay hgiven, member?_givenOptions hcli.named, member?_environment vars hfield]

end Upper

/-! ## Targets -/

/-- A value that is accepted for a target names it. -/
theorem configuredTarget_eq_ok {source : String} {v : Value} {target : Target} :
    configuredTarget source v = .ok target → v = .str target.word := by
  intro h
  unfold configuredTarget at h
  cases hfound : v.text?.bind Target.ofWord? with
  | none =>
      simp only [hfound, bind_eq_ok_iff] at h
      obtain ⟨_, _, h⟩ := h
      cases h
  | some named =>
      simp only [hfound, pure_eq_ok_iff] at h
      subst h
      obtain ⟨s, htext, hword⟩ := Option.bind_eq_some_iff.1 hfound
      have hs : named.word = s := by
        simpa using List.find?_some hword
      unfold Value.text? at htext
      split at htext
      · cases htext
        rw [hs]
        rfl
      · cases htext

/-- A value that can be displayed is accepted for a target, or it is a fault of the configuration. -/
theorem configuredTarget_cases (source : String) {v : Value} (hlong : v.hasLong = false) :
    (∃ target, configuredTarget source v = .ok target) ∨
      ∃ fault, configuredTarget source v = .error (.config fault) := by
  unfold configuredTarget
  cases v.text?.bind Target.ofWord? with
  | none =>
      right
      simp only [Value.displayed, hlong]
      exact ⟨_, rfl⟩
  | some target =>
      exact .inl ⟨target, rfl⟩

/-- A target is the one that a layer names, or else the one below. -/
theorem overrideTarget_eq_ok {source : String} {below target : Target} {v : Option Value} :
    overrideTarget source below v = .ok target →
      .str target.word = v.getD (.str below.word) := by
  intro h
  cases v with
  | none =>
      cases h
      rfl
  | some v =>
      exact (configuredTarget_eq_ok h).symm

/-! ## Stages -/

/-- Options that are put over those of the lower layers, if there are any. -/
def updated (lower : Options) (updates : Entries) : Except Failure Options :=
  if updates.isEmpty then .ok lower
  else
    (readEntries (Entries.overlay lower.form updates)).mapError fun found =>
      .config (.invalidOptions found)

/-- Resolution goes through its layers from the lowest one up. -/
theorem resolveOptions_eq (project : Option Entries) (env : Environment) (cli : Entries)
    (cliTarget : Option Value) :
    resolveOptions project env cli cliTarget = (do
      let projectTarget ← overrideTarget projectFile .custom ((project.getD []).member? "target")
      let lower ← (readEntries (settings (project.getD []))).mapError fun found =>
        Failure.config (.invalidFile projectFile found)
      let envTarget ←
        overrideTarget Environment.targetVariable projectTarget (env.target.map .str)
      let target ← overrideTarget "--target" envTarget cliTarget
      let options ← updated lower (Entries.overlay env.updates (givenOptions cli))
      return (options, target)) := by
  unfold resolveOptions settings updated
  -- Stage by stage both sides are the same, as soon as it is known how the reading ends.
  refine bind_congr fun projectTarget => ?_
  dsimp only
  cases readEntries ((project.getD []).filter fun entry => !entry.1.same (.str "target")) with
  | error found =>
      rfl
  | ok lower =>
      refine bind_congr fun lower => bind_congr fun envTarget => bind_congr fun target => ?_
      by_cases hempty : List.isEmpty (Entries.overlay env.updates (givenOptions cli)) = true
      · rw [if_pos hempty, if_pos hempty]
        rfl
      · rw [if_neg hempty, if_neg hempty]
        cases readEntries (Entries.overlay lower.form (Entries.overlay env.updates (givenOptions cli)))
        · rfl
        · rfl

/-! ## What is chosen -/

section Chosen

variable {project : Entries} {vars : List (String × String)} {cli : Entries}

/-- Every field is chosen on its own. -/
theorem form_chosen {lower options : Options} (hreadable : (Value.map project).Readable)
    (hcli : WellTyped cli) (hlower : readEntries (settings project) = .ok lower)
    (hupdated : updated lower
      (Entries.overlay (Environment.ofVariables vars).updates (givenOptions cli)) = .ok options) :
    options.form =
      typedFields.map fun field => (.str field.1.snake, chosen project vars cli field) := by
  have hform : options.form = typedFields.map fun field =>
      (.str field.1.snake,
        ((Entries.overlay (Environment.ofVariables vars).updates (givenOptions cli)).member?
          field.1.snake).getD (field.2.value field.1 (settings project))) := by
    obtain ⟨rfl, -⟩ := readEntries_eq_ok hlower
    -- Without updates the form of the lower layers stands, otherwise it is read again under them.
    unfold updated at hupdated
    split at hupdated
    · rename_i hempty
      cases hupdated
      rw [List.isEmpty_iff.1 hempty]
      exact form_ofEntries _
    · refine form_reread (updates_of_wellTyped hcli) ?_
      cases hread : readEntries _ with
      | error found =>
          rw [hread] at hupdated
          cases hupdated
      | ok options =>
          rw [hread] at hupdated
          cases hupdated
          rfl
  rw [hform]
  refine List.map_congr_left fun field hfield => congrArg (Prod.mk _) ?_
  rw [member?_updates hcli hfield, value_settings hreadable hlower hfield, chosen]
  simp only [Option.getD_or]

/-- The target of the first layer that names one. -/
theorem target_chosen {cliTarget : Option String} {projectTarget envTarget target : Target}
    (hproject : overrideTarget projectFile .custom (project.member? "target") = .ok projectTarget)
    (henv : overrideTarget Environment.targetVariable projectTarget
      ((Environment.ofVariables vars).target.map .str) = .ok envTarget)
    (htarget : overrideTarget "--target" envTarget (cliTarget.map .str) = .ok target) :
    .str target.word = Target.chosen project vars cliTarget := by
  rw [overrideTarget_eq_ok htarget, overrideTarget_eq_ok henv, overrideTarget_eq_ok hproject,
    Target.chosen, Option.getD_or, Option.getD_or]
  rfl

end Chosen

/-! ## What is refused -/

/-- A step that ends with a fault of the configuration. -/
def Refused {α : Type} (x : Except Failure α) : Prop :=
  ∃ fault, x = .error (.config fault)

/-- Steps that have a result or are refused are refused together, if none of their results goes on. -/
theorem refused_bind {α β : Type} {x : Except Failure α} {f : α → Except Failure β}
    (hx : (∃ a, x = .ok a) ∨ Refused x) (hf : ∀ a, x = .ok a → Refused (f a)) :
    Refused (x >>= f) := by
  rcases hx with ⟨a, rfl⟩ | ⟨fault, rfl⟩
  · exact hf a rfl
  · exact ⟨fault, rfl⟩

/-- A layer names a target or is refused. -/
theorem overrideTarget_cases (source : String) (below : Target) {v : Option Value}
    (hlong : ∀ w, v = some w → w.hasLong = false) :
    (∃ target, overrideTarget source below v = .ok target) ∨
      Refused (overrideTarget source below v) := by
  cases v with
  | none =>
      exact .inl ⟨below, rfl⟩
  | some v =>
      exact configuredTarget_cases source (hlong v rfl)

theorem mapError_cases {α β : Type} (x : Except β α) (fault : β → ConfigFault) :
    (∃ a, (x.mapError fun e => Failure.config (fault e)) = .ok a) ∨
      Refused (x.mapError fun e => Failure.config (fault e)) := by
  cases x with
  | error e =>
      exact .inr ⟨fault e, rfl⟩
  | ok a =>
      exact .inl ⟨a, rfl⟩

/-- Whatever the command line holds, what is wrong below it is refused. -/
theorem refused_of_misconfigured {project : Option Entries} {vars : List (String × String)}
    (hreadable : (Value.map (project.getD [])).Readable)
    (hwrong : Misconfigured (project.getD []) vars) (cli : Entries) (cliTarget : Option Value) :
    Refused (resolveOptions project (Environment.ofVariables vars) cli cliTarget) := by
  rw [resolveOptions_eq]
  refine refused_bind (overrideTarget_cases _ _ fun w hw => ?_) fun projectTarget hproject => ?_
  · exact (Value.readable_map_iff.1 hreadable _ (Entries.mem_of_member? hw)).2.hasLong
  refine refused_bind (mapError_cases _ _) fun lower hlower => ?_
  refine refused_bind (overrideTarget_cases _ _ fun w hw => ?_) fun envTarget henv => ?_
  · obtain ⟨s, -, rfl⟩ := Option.map_eq_some_iff.1 hw
    rfl
  -- Each of the three faults would have stopped one of the steps so far.
  exfalso
  rcases hwrong with ⟨v, hv, hunknown⟩ | ⟨found, hfound⟩ | ⟨s, hs, hunknown⟩
  · rw [hv] at hproject
    exact hunknown projectTarget (configuredTarget_eq_ok hproject)
  · rw [hfound] at hlower
    cases hlower
  · have hset : (Environment.ofVariables vars).target = some s := hs
    rw [hset] at henv
    exact hunknown envTarget (Scalar.str.inj (Value.scalar.inj (configuredTarget_eq_ok henv)))

/-! ## Resolution -/

/-- Resolution chooses every field and the target by precedence, and no layer hides what is wrong with
a lower one. -/
theorem resolved_by_precedence {files : Files} {project : Option Entries}
    (hproject : loadProject files = .ok project) (vars : List (String × String)) :
    (∀ cli cliTarget options target, WellTyped cli →
      resolveOptions project (Environment.ofVariables vars) cli (cliTarget.map .str) =
        .ok (options, target) →
      options.form = (typedFields.map fun field =>
        (.str field.1.snake, chosen (project.getD []) vars cli field)) ∧
      .str target.word = Target.chosen (project.getD []) vars cliTarget) ∧
    (Misconfigured (project.getD []) vars → ∀ cli cliTarget,
      Refused (resolveOptions project (Environment.ofVariables vars) cli cliTarget)) := by
  have hreadable := readable_of_loadProject hproject
  refine ⟨fun cli cliTarget options target hcli h => ?_, refused_of_misconfigured hreadable⟩
  -- The layers are read one after the other: project, variables, command line.
  rw [resolveOptions_eq, bind_eq_ok_iff] at h
  obtain ⟨projectTarget, hprojectTarget, h⟩ := h
  obtain ⟨lower, hlower, h⟩ := bind_eq_ok_iff.1 h
  obtain ⟨envTarget, henv, h⟩ := bind_eq_ok_iff.1 h
  obtain ⟨target', htarget, h⟩ := bind_eq_ok_iff.1 h
  obtain ⟨options', hupdated, h⟩ := bind_eq_ok_iff.1 h
  cases h
  -- A project that is refused leaves no options to go on with.
  have hsettings : readEntries (settings (project.getD [])) = .ok lower := by
    cases hread : readEntries (settings (project.getD [])) with
    | error found =>
        rw [hread] at hlower
        cases hlower
    | ok options =>
        rw [hread] at hlower
        cases hlower
        rfl
  exact ⟨form_chosen hreadable hcli hsettings hupdated, target_chosen hprojectTarget henv htarget⟩

end Options

/-! ## The commands -/

namespace CommandLine

open Options

theorem optional_typed (s : Option String) :
    (Value.optional s).isNull = true ∨ Kind.text.Has (.optional s) := by
  cases s with
  | none =>
      exact .inl rfl
  | some s =>
      exact .inr (.inr ⟨s, rfl⟩)

theorem optionalBool_typed (b : Option Bool) :
    (optionalBool b).isNull = true ∨ Kind.flag.Has (optionalBool b) := by
  cases b with
  | none =>
      exact .inl rfl
  | some b =>
      exact .inr ⟨b, rfl⟩

/-- The commands give options of their kinds. -/
theorem wellTyped_options (d : Details) : WellTyped d.options := by
  have hkeys : d.options.keys = (Details.options {}).keys := rfl
  have htyped : ∀ entry ∈ d.options, ∃ field ∈ typedFields,
      entry.1 = .str field.1.snake ∧ (entry.2.isNull = true ∨ field.2.Has entry.2) := by
    simp only [Details.options, List.forall_mem_cons]
    exact ⟨⟨(classNameField, .text), by decide, rfl, optional_typed _⟩,
      ⟨(moduleNameField, .text), by decide, rfl, optional_typed _⟩,
      ⟨(multipleField, .flag), by decide, rfl, optionalBool_typed _⟩,
      ⟨(pathField, .text), by decide, rfl, optional_typed _⟩,
      ⟨(requestBodyNameField, .text), by decide, rfl, optional_typed _⟩,
      ⟨(es6Field, .flag), by decide, rfl, optionalBool_typed _⟩,
      ⟨(esnextField, .flag), by decide, rfl, optionalBool_typed _⟩,
      ⟨(strictContentTypeField, .flag), by decide, rfl, optionalBool_typed _⟩,
      fun entry hentry => nomatch hentry⟩
  refine ⟨⟨fun key hkey => ?_, ?_⟩, htyped⟩
  · obtain ⟨entry, hentry, rfl⟩ := List.mem_map.1 hkey
    obtain ⟨field, -, hname, -⟩ := htyped entry hentry
    exact ⟨_, hname⟩
  · rw [hkeys]
    decide

end CommandLine

/-! ## A project with every layer -/

namespace Options

/-- The text of a project file that sets a name, a flag in words, and a target. -/
def projectText : String :=
  "\x7b\"class_name\":\"Pets\",\"isES6\":\"Yes\",\"target\":\"node\"\x7d"

def projectFiles : Files := [(⟨"", [projectFile]⟩, Text.utf8Bytes projectText)]

def projectMembers : Entries :=
  [(.str "class_name", .str "Pets"), (.str "isES6", .str "Yes"), (.str "target", .str "node")]

/-- Variables of which one is empty. -/
def layerVariables : List (String × String) :=
  [("SPECVIEW_CLASS_NAME", ""), ("SPECVIEW_MODULE_NAME", "shop"), ("SPECVIEW_TARGET", "react")]

def layerDetails : CommandLine.Details :=
  { className := some "", multiple := some true, es6 := none }

/-- What the layers make of all fields, and of the target. -/
def layeredOptions : Options :=
  { className := some "", moduleName := some "shop", multiple := true, es6 := true }

/-- Variables with a target that there is none of. -/
def unknownVariables : List (String × String) :=
  [("SPECVIEW_TARGET", "go")]

theorem projectFiles_resolved :
    loadProject projectFiles = .ok (some projectMembers) ∧
      WellTyped layerDetails.options ∧
      resolveOptions (some projectMembers) (Environment.ofVariables layerVariables)
        layerDetails.options ((none : Option String).map .str) = .ok (layeredOptions, .react) ∧
      (layeredOptions.form = (typedFields.map fun field =>
          (.str field.1.snake,
            chosen projectMembers layerVariables layerDetails.options field)) ∧
        .str Target.react.word = Target.chosen projectMembers layerVariables none) ∧
      Misconfigured projectMembers unknownVariables ∧
      Refused (resolveOptions (some projectMembers) (Environment.ofVariables unknownVariables) []
        (some (.str "node"))) := by
  have hproject : loadProject projectFiles = .ok (some projectMembers) := by decide +kernel
  have htyped : WellTyped layerDetails.options := CommandLine.wellTyped_options layerDetails
  have hresolved : resolveOptions (some projectMembers) (Environment.ofVariables layerVariables)
      layerDetails.options ((none : Option String).map .str) = .ok (layeredOptions, .react) := by
    decide +kernel
  have hwrong : Misconfigured projectMembers unknownVariables := by
    refine .inr (.inr ⟨"go", by decide, fun target => ?_⟩)
    cases target <;> decide
  exact ⟨hproject, htyped, hresolved,
    (resolved_by_precedence hproject layerVariables).1 _ _ _ _ htyped hresolved, hwrong,
    (resolved_by_precedence hproject unknownVariables).2 hwrong _ _⟩

end Options

end ApiView
