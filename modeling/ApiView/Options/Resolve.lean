import ApiView.Json.Reader
import ApiView.Options.Reading
import ApiView.Source.Files
import ApiView.Value.Access

/-!
# Where options come from

Options are given on the command line, in the environment and in a project file, and the first of
these that gives an option wins. An error in any of them is an error of the whole.

* `projectFile`: the project file;
* `Environment`: the variables that matter;
* `readProject`, `loadProject`: the mapping in a project file;
* `resolveOptions`: options and target.
-/

namespace ApiView

def projectFile : String := "specview.json"

/-- The variables that options are read from; an empty one counts as unset. -/
structure Environment where
  className : Option String := none
  moduleName : Option String := none
  target : Option String := none
deriving DecidableEq, Repr

namespace Environment

def classNameVariable : String := "SPECVIEW_CLASS_NAME"

def moduleNameVariable : String := "SPECVIEW_MODULE_NAME"

def targetVariable : String := "SPECVIEW_TARGET"

def setting? (env : List (String × String)) (name : String) : Option String :=
  (env.lookup name).filter fun s => !s.isEmpty

def ofVariables (env : List (String × String)) : Environment :=
  { className := setting? env classNameVariable
    moduleName := setting? env moduleNameVariable
    target := setting? env targetVariable }

/-- The options that the variables set. -/
def updates (env : Environment) : Entries :=
  (env.className.map fun s => (Scalar.str Options.classNameField.snake, Value.str s)).toList ++
    (env.moduleName.map fun s => (Scalar.str Options.moduleNameField.snake, Value.str s)).toList

end Environment

/-! ## The project file -/

def readProject (text : List Char) : Except Failure Entries :=
  match Json.read text with
  | .ok (.map entries) => .ok entries
  | .ok _ => .error (.config (.notAnObject projectFile))
  | .error fault =>
    if fault.reason == .tooManyDigits then .error (.defect .badNumber)
    else .error (.config (.notJson projectFile (fault.message text)))

def loadProject (files : Files) : Except Failure (Option Entries) :=
  match files.look (FilePath.ofText projectFile) with
  | .error _ => .ok none
  | .ok bytes =>
    match decodeText bytes with
    | some text => (readProject text).map some
    | none => .error (.defect .notUtf8)

/-! ## Resolution -/

def configuredTarget (source : String) (v : Value) : Except Failure Target := do
  match v.text?.bind Target.ofWord? with
  | some target => return target
  | none => throw (.config (.unknownTarget (← v.displayed) source Target.words))

/-- The target that a layer names, or else the one of the layers below. -/
def overrideTarget (source : String) (below : Target) : Option Value → Except Failure Target
  | some v => configuredTarget source v
  | none => .ok below

/-- The options that are given on the command line: those that are not null. -/
def givenOptions (options : Entries) : Entries :=
  options.filter fun (_, v) => !v.isNull

/-- Options and target from a project file, the environment and the command line. -/
def resolveOptions (project : Option Entries) (env : Environment) (cliOptions : Entries)
    (cliTarget : Option Value) : Except Failure (Options × Target) := do
  -- The file is checked before anything is put over it, so that its own errors come first.
  let project := project.getD []
  let projectTarget ← overrideTarget projectFile .custom (project.member? "target")
  let settings := project.filter fun (k, _) => !k.same (.str "target")
  let options ← match Options.readEntries settings with
    | .ok options => pure options
    | .error found => throw (.config (.invalidFile projectFile found))
  let envTarget ← overrideTarget Environment.targetVariable projectTarget (env.target.map .str)
  let target ← overrideTarget "--target" envTarget cliTarget
  let updates := Entries.overlay env.updates (givenOptions cliOptions)
  if updates.isEmpty then return (options, target)
  else
    match Options.readEntries (Entries.overlay options.form updates) with
    | .ok options => return (options, target)
    | .error found => throw (.config (.invalidOptions found))

end ApiView
