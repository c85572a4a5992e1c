import ApiView.Build.View
import ApiView.CommandLine.Request
import ApiView.Options.Resolve
import ApiView.Source.Load
import ApiView.Template.Render

/-!
# Running a request

A run reads what its surroundings hold and leaves a report. Data is printed once and last, so a run
that fails has printed diagnostics only. Diagnostics are without colours.

* `Renderer`, `Situation`: what renders templates, and everything that a run can see;
* `Report`: what a run leaves behind;
* `Request.build`: the view that a request is about;
* `Shown`, `Request.shown`: what a command shows of it;
* `run`: the report on a command line.
-/

namespace ApiView
namespace CommandLine

/-- What makes a text of a view, by the template of a client and the one of its methods. -/
abbrev Renderer := View → String → Option String → Except Failure String

/-- What a run can see: sources of documents, variables, where files can be written, and what renders
templates. Without another one it is `renderView`, which knows a part of the template language. -/
structure Situation extends Surroundings where
  env : List (String × String) := []
  writable : String → Bool := fun _ => true
  render : Renderer := fun view main method => renderView view main method

/-- What a run leaves behind: an exit code and what was printed. -/
structure Report where
  exitCode : Nat
  printed : Printed
deriving DecidableEq, Repr

/-! ## Templates -/

/-- The text of a template file. -/
def readTemplate (files : Files) (path : String) : Except Failure String :=
  let place := FilePath.ofText path
  match files.look place with
  | .ok bytes =>
    match decodeText bytes with
    | some text => .ok (String.ofList text)
    | none => .error (.defect .notUtf8)
  | .error .cutShort => .error (.defect .badPath)
  | .error reason =>
    .error (.usage (.unreadableTemplate place.text
      (reason.text ++ ": " ++ Text.quote place.text)))

structure TemplateTexts where
  main : String := ""
  method : Option String := none
deriving DecidableEq, Repr

def Request.templates (r : Request) (files : Files) : Except Failure TemplateTexts := do
  let main ← match r.details.template with
    | some path => readTemplate files path
    | none => pure ""
  let method ← match r.details.methodTemplate with
    | some path => some <$> readTemplate files path
    | none => pure none
  return ⟨main, method⟩

/-! ## Views -/

def Request.settings (r : Request) (s : Situation) : Except Failure (Options × Target) := do
  let project ← loadProject s.files
  resolveOptions project (Environment.ofVariables s.env) r.details.options r.target

def shownLog (verbose : Bool) (log : List LogLine) : List String :=
  (log.filter fun line => verbose || line.level == .warning).map LogLine.written

/-- The view that a request is about, and what is said on the way to it. -/
def Request.build (r : Request) (s : Situation) : Printed × Except Failure View :=
  match r.settings s with
  | .error e => ({}, .error e)
  | .ok (options, target) =>
    let output := r.general.output
    let said := output.tell (.debug ("Loading spec from " ++ r.source))
    match load s.toSurroundings r.source with
    | .error e => (said, .error e)
    | .ok document =>
      let built := buildView (.map document) options (.str target.word)
      (said.andThen (.diagnostics (shownLog output.verbose built.log)), built.outcome)

/-! ## Commands -/

/-- A value that JSON can be written of. -/
def writable (v : Value) : Except Failure Value :=
  match Json.obstacle? v with
  | none => .ok v
  | some obstacle => .error (.defect obstacle.defect)

/-- The data that a command shows, and the diagnostics before and after it. -/
structure Shown where
  before : List Notice := []
  data : Data
  after : List Notice := []
deriving DecidableEq, Repr

def credentialsText (c : Credentials) : String :=
  let words := (if c.token then ["token"] else []) ++ (if c.apiKey then ["apiKey"] else []) ++
    (if c.basic then ["basic"] else [])
  if words.isEmpty then "-" else ", ".intercalate words

def methodsTable (view : View) : Table :=
  { headers := ["Method", "Verb", "Path", "Auth"]
    rows := view.methods.map fun m => [m.name, m.verb.word, m.path, credentialsText m.credentials] }

def orDash (s : Option String) : String :=
  match s with
  | some s => if s.isEmpty then "-" else s
  | none => "-"

def definitionsTable (view : View) : Table :=
  { headers := ["Name", "Type", "Description"]
    rows := view.definitions.map fun d => [d.name, d.type, orDash d.description] }

def clientName (view : View) : String :=
  match view.className with
  | some s => if s.isEmpty then "client" else s
  | none => "client"

/-- What a command shows of a view. -/
def Command.shown (command : Command) (render : Renderer) (templates : TemplateTexts)
    (view : View) : Except Failure Shown :=
  match command with
  | .view => do return { data := .document (← writable (← view.handed)) }
  | .methods =>
    return { before := if view.methods.isEmpty then [.warning "No operations found"] else []
             data := .table (methodsTable view) }
  | .definitions =>
    return { before :=
               if view.definitions.isEmpty then [.info "Document declares no definitions"] else []
             data := .table (definitionsTable view) }
  | .render => do
    let text ← render view templates.main templates.method
    return { data := .text text
             after := [.success ("Rendered " ++ toString view.methods.length ++
               " method(s) for " ++ clientName view)] }

/-- What a request shows, and what is said on the way to it. -/
def Request.shown (r : Request) (s : Situation) : Printed × Except Failure Shown :=
  -- Templates come before the document: a missing one is told even if there is no document either.
  match r.templates s.files with
  | .error e => ({}, .error e)
  | .ok templates =>
    let (said, view) := r.build s
    (said, view.bind (r.command.shown s.render templates))

/-! ## Reports -/

def tellAll (output : Output) (notices : List Notice) : Printed :=
  (notices.map output.tell).foldl Printed.andThen {}

/-- The message of a failure. One without words of its own was not expected. -/
def failureText (e : Failure) : String :=
  if e.isReported then e.message else "Unexpected error: " ++ e.message

def failed (output : Output) (said : Printed) (e : Failure) : Report :=
  ⟨e.exitCode, said.andThen (output.tell (.error (failureText e)))⟩

/-- Whether the data of a run can be printed. -/
def canPrint (output : Output) (s : Situation) : Bool :=
  match output.file? with
  | some path => s.writable path
  | none => true

/-- The report on a request. -/
def Request.run (r : Request) (s : Situation) : Report :=
  let output := r.general.output
  let (said, shown) := r.shown s
  match shown with
  | .error e => failed output said e
  | .ok shown =>
    let said := said.andThen (tellAll output shown.before)
    if canPrint output s then
      ⟨0, (said.andThen (output.print shown.data)).andThen (tellAll output shown.after)⟩
    else failed output said (.defect .unopenedFile)

/-! ## Command lines -/

def versionText : String := "specview 0.1.0\n"

def helpText : String :=
  "Usage: specview [OPTIONS] COMMAND SOURCE [ARGS]...\n\n" ++
  "  Normalise Swagger 1.x / 2.0 and OpenAPI 3.x documents into a client view model.\n\n" ++
  "Commands:\n" ++
  "  view         Print the view model of SOURCE as JSON.\n" ++
  "  methods      List the methods generated for SOURCE.\n" ++
  "  definitions  List the definitions exposed for SOURCE.\n" ++
  "  render       Render SOURCE with custom templates.\n\n" ++
  "Options: --version --json --plain --no-color -q/--quiet -v/--verbose -o/--output FILE --help\n"

/-- The report on a command line. -/
def run (s : Situation) (words : List String) : Report :=
  match Invocation.read words with
  | .error misuse =>
    ⟨2, { stderr := "Usage: specview [OPTIONS] COMMAND SOURCE [ARGS]...\n" ++ misuse.text ++ "\n" }⟩
  | .ok (.help exitCode) => ⟨exitCode, { stdout := helpText }⟩
  | .ok .version => ⟨0, { stdout := versionText }⟩
  | .ok (.run request) => request.run s

end CommandLine
end ApiView
