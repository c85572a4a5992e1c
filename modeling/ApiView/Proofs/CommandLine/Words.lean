import ApiView.CommandLine.Request
import ApiView.Proofs.Outcomes

/-!
# Words — switches that leave a setting alone

Each switch of a command line changes the settings at hand, whatever they are.  So a setting that no switch
looks at can be made first or last:

* `Effect.Keeps`, `Found.Keeps`: switches that do not notice a change of the settings;
* `keeps_of_readSwitch`: the switches that are read from a word are like those that may stand in it;
* `readWords_change`: the words of a command line, read with changed settings;
* `ofCommand_eq_run_iff`, `read_eq_run_iff`: the words that make a request;
* `Request.toFile`, `read_output`: a file for the data, named in front of everything else.
-/

namespace ApiView
namespace CommandLine

variable {σ : Type} {change : σ → σ} {switches : List (Switch σ)} {found : Found σ}

/-! ## Switches -/

/-- An effect that does not notice a change of the settings. -/
def Effect.Keeps (change : σ → σ) : Effect σ → Prop
  | .set f => ∀ settings, f (change settings) = change (f settings)
  | .take f => ∀ value settings, f value (change settings) = change (f value settings)

/-- A switch in a word that does not notice a change of the settings. -/
def Found.Keeps (change : σ → σ) : Found σ → Prop
  | .done f => ∀ settings, f (change settings) = change (f settings)
  | .waiting _ f => ∀ value settings, f value (change settings) = change (f value settings)

section Reading

variable (h : ∀ switch ∈ switches, switch.effect.Keeps change)
include h

theorem keeps_of_effectOf? {name : String} {effect : Effect σ} :
    effectOf? switches name = some effect → effect.Keeps change := by
  intro heffect
  obtain ⟨switch, hfind, rfl⟩ := Option.map_eq_some_iff.1 heffect
  exact h switch (List.mem_of_find?_eq_some hfind)

theorem keeps_of_readLong {word : List Char} :
    readLong switches word = .ok found → found.Keeps change := by
  intro hread
  unfold readLong at hread
  dsimp only at hread
  -- A name alone, one that takes a value with or without it, and a value that is not expected.
  split at hread
  · cases hread
  · rename_i heffect _
    cases hread
    exact keeps_of_effectOf? h heffect
  · rename_i heffect _
    cases hread
    exact keeps_of_effectOf? h heffect _
  · rename_i heffect _
    cases hread
    exact keeps_of_effectOf? h heffect
  · cases hread

/-- Short names in a row keep what each of them keeps. -/
theorem keeps_of_readShort {word : List Char} :
    readShort switches word = .ok found → found.Keeps change := by
  intro hread
  induction word generalizing found with
  | nil =>
      cases hread
      exact fun _ => rfl
  | cons c rest ih =>
      unfold readShort at hread
      dsimp only at hread
      split at hread
      · cases hread
      · rename_i f heffect
        have hkeeps := keeps_of_effectOf? h heffect
        split at hread
        · cases hread
          exact hkeeps
        · cases hread
          exact hkeeps _
      · rename_i f heffect
        have hkeeps : ∀ settings, f (change settings) = change (f settings) :=
          keeps_of_effectOf? h heffect
        obtain ⟨behind, hbehind, hread⟩ := bind_eq_ok_iff.1 hread
        have hrest := ih hbehind
        -- The settings go through the first switch and then through those behind it.
        cases behind with
        | done g =>
            cases hread
            intro settings
            calc
              g (f (change settings)) = g (change (f settings)) := by rw [hkeeps]
              _ = change (g (f settings)) := hrest (f settings)
        | waiting name g =>
            cases hread
            intro value settings
            calc
              g value (f (change settings)) = g value (change (f settings)) := by rw [hkeeps]
              _ = change (g value (f settings)) := hrest value (f settings)

theorem keeps_of_readSwitch {word : List Char} :
    readSwitch switches word = .ok found → found.Keeps change := by
  intro hread
  unfold readSwitch at hread
  split at hread
  · exact keeps_of_readLong h hread
  · exact keeps_of_readShort h hread
  · cases hread
    exact fun _ => rfl

/-- A change of the settings that no switch notices can be made before all words are read or after. -/
theorem readWords_change (anywhere : Bool) (settings : σ) (words : List String) :
    readWords switches anywhere (change settings) words =
      (readWords switches anywhere settings words).map fun (settings, others) =>
        (change settings, others) := by
  -- A switch may take the next word along, so the induction is the one of the reader.
  induction settings, words using readWords.induct anywhere with
  | case1 settings =>
      simp only [readWords]
      rfl
  | case2 settings word rest hend =>
      rw [readWords, readWords, if_pos hend, if_pos hend]
      rfl
  | case3 settings word rest hend hswitch hdone hwaiting =>
      rw [readWords, readWords, if_neg hend, if_neg hend, if_pos hswitch, if_pos hswitch]
      cases hread : readSwitch switches word.toList with
      | error misuse =>
          rfl
      | ok found =>
          have hkeeps := keeps_of_readSwitch h hread
          cases found with
          | done f =>
              have hf : ∀ settings, f (change settings) = change (f settings) := hkeeps
              simp only [ok_bind, hf]
              exact hdone f
          | waiting name f =>
              have hf : ∀ value settings, f value (change settings) = change (f value settings) :=
                hkeeps
              cases rest with
              | nil =>
                  rfl
              | cons value rest =>
                  simp only [ok_bind, hf]
                  exact hwaiting f
  | case4 settings word rest hend hswitch hanywhere ih =>
      rw [readWords, readWords, if_neg hend, if_neg hend, if_neg hswitch, if_neg hswitch,
        if_pos hanywhere, if_pos hanywhere, ih]
      cases readWords switches anywhere settings rest <;> rfl
  | case5 settings word rest hend hswitch hanywhere =>
      rw [readWords, readWords, if_neg hend, if_neg hend, if_neg hswitch, if_neg hswitch,
        if_neg hanywhere, if_neg hanywhere]
      rfl

end Reading

/-! ## A file for the data -/

/-- A request that delivers its data to a file. -/
def Request.toFile (r : Request) (path : String) : Request :=
  { r with general := { r.general with file := some path } }

/-- Settings with a file for the data, unless they have one already. -/
def General.orFile (path : String) (general : General) : General :=
  { general with file := general.file <|> some path }

/-- No switch looks at the file, and the one that names it leaves nothing of an earlier one. -/
theorem keeps_generalSwitches (path : String) :
    ∀ switch ∈ generalSwitches, switch.effect.Keeps (General.orFile path) := by
  simp only [generalSwitches, List.forall_mem_cons, List.not_mem_nil, false_implies, implies_true,
    and_true]
  exact ⟨fun _ => rfl, fun _ => rfl, fun _ => rfl, fun _ => rfl, fun _ => rfl, fun _ => rfl,
    fun _ => rfl, fun _ _ => rfl⟩

variable {r : Request} {words : List String}

/-- The words behind a command make a request iff they hold one source, and no switch among them asks for
help or is missing. -/
theorem ofCommand_eq_run_iff {general : General} {command : Command} :
    Invocation.ofCommand general command words = .ok (.run r) ↔
      ∃ details source, readWords command.switches true {} words = .ok (details, [source]) ∧
        details.help = false ∧ (command == .render && details.template.isNone) = false ∧
          r = ⟨general, command, source, details⟩ := by
  unfold Invocation.ofCommand
  rw [bind_eq_ok_iff]
  constructor
  · -- Help, a missing source, a missing template and words behind the source each end in something else.
    rintro ⟨⟨details, positional⟩, hdetails, h⟩
    dsimp only at h
    split at h
    · cases h
    · rename_i hhelp
      split at h
      · cases h
      · rename_i source extra
        split at h
        · cases h
        · rename_i htemplate
          split at h
          · rename_i hextra
            cases h
            rw [List.isEmpty_iff.1 hextra] at hdetails
            exact ⟨details, source, hdetails, Bool.of_not_eq_true hhelp,
              Bool.of_not_eq_true htemplate, rfl⟩
          · cases h
  · rintro ⟨details, source, hdetails, hhelp, htemplate, rfl⟩
    refine ⟨_, hdetails, ?_⟩
    dsimp only
    rw [hhelp, if_neg Bool.false_ne_true, htemplate, if_neg Bool.false_ne_true]
    rfl

theorem invocation_ne_run (showing : Showing) : showing.invocation ≠ .run r := by
  cases showing <;> exact Invocation.noConfusion

theorem ofStray_ne_run {name : String} : Invocation.ofStray name words ≠ .ok (.run r) := by
  intro h
  obtain ⟨⟨general, others⟩, _, h⟩ := bind_eq_ok_iff.1 h
  dsimp only at h
  split at h
  · exact invocation_ne_run _ (Except.ok.inj h)
  · cases h

/-- Words make a request iff the first one behind the settings names a command, nothing is to be shown in place
of it, and the words behind it make a request. -/
theorem read_eq_run_iff : Invocation.read words = .ok (.run r) ↔
    words ≠ [] ∧ ∃ general name rest,
      readWords generalSwitches false {} words = .ok (general, name :: rest) ∧
      general.showing = none ∧ ∃ command, Command.ofWord? name = some command ∧
        Invocation.ofCommand general command rest = .ok (.run r) := by
  unfold Invocation.read
  constructor
  · intro h
    -- No words at all show the help, and so do help and version switches.
    split at h
    · cases h
    · rename_i hempty
      obtain ⟨⟨general, others⟩, hwords, h⟩ := bind_eq_ok_iff.1 h
      refine ⟨by simpa using hempty, ?_⟩
      dsimp only at h
      split at h
      · exact absurd (Except.ok.inj h) (invocation_ne_run _)
      · cases h
      · rename_i name rest hshowing
        split at h
        · rename_i command hcommand
          exact ⟨general, name, rest, hwords, hshowing, command, hcommand, h⟩
        · exact absurd h ofStray_ne_run
  · rintro ⟨hempty, general, name, rest, hwords, hshowing, command, hcommand, h⟩
    rw [if_neg (by simpa using hempty), hwords]
    simp only [ok_bind, hshowing, hcommand]
    exact h

/-- A request with a file named in front of it is the same one, with its data delivered to the file. -/
theorem read_output (hread : Invocation.read words = .ok (.run r)) (hnone : r.general.file = none)
    (path : String) : Invocation.read ("-o" :: path :: words) = .ok (.run (r.toFile path)) := by
  obtain ⟨_, general, name, rest, hwords, hshowing, command, hcommand, h⟩ := read_eq_run_iff.1 hread
  obtain ⟨details, source, hdetails, hhelp, htemplate, rfl⟩ := ofCommand_eq_run_iff.1 h
  -- Nothing behind the file names another one.
  have hfile : general.orFile path = { general with file := some path } := by
    rw [General.orFile, hnone]
    rfl
  have hwords' : readWords generalSwitches false {} ("-o" :: path :: words) =
      .ok (general.orFile path, name :: rest) := by
    calc
      readWords generalSwitches false {} ("-o" :: path :: words)
          = readWords generalSwitches false (General.orFile path {}) words := by
            rw [readWords]
            rfl
      _ = .ok (general.orFile path, name :: rest) := by
            rw [readWords_change (keeps_generalSwitches path), hwords]
            rfl
  refine read_eq_run_iff.2 ⟨List.cons_ne_nil _ _, _, name, rest, hwords', hshowing, command, hcommand, ?_⟩
  exact ofCommand_eq_run_iff.2 ⟨details, source, hdetails, hhelp, htemplate, by rw [hfile]; rfl⟩

end CommandLine
end ApiView
