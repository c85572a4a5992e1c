import ApiView.CommandLine.Switch
import ApiView.Options.Reading
import ApiView.Report.Output

/-!
# Requests

What a command line asks for: general settings, a command, a source, and the details of the command.

* `General`, `Details`: settings before and after the name of the command;
* `Command`: the commands;
* `Request`, `Invocation`: everything together;
* `Invocation.read`: the invocation that a row of words is.

Standard output is taken to be no terminal, and diagnostics to be without colours; `Request.isColourless`
says of a request that it asks for them so.
-/

namespace ApiView
namespace CommandLine

/-! ## Settings -/

/-- Something that is shown in place of running a command. -/
inductive Showing
  | help
  | version
deriving DecidableEq, Repr

/-- The settings of every command. What is to be shown in place of running is what was asked for
first. -/
structure General where
  json : Bool := false
  plain : Bool := false
  quiet : Bool := false
  verbose : Bool := false
  noColour : Bool := false
  file : Option String := none
  showing : Option Showing := none
deriving DecidableEq, Repr

def generalSwitches : List (Switch General) :=
  [⟨["--version"], .set fun s => { s with showing := s.showing <|> some .version }⟩,
   ⟨["--help"], .set fun s => { s with showing := s.showing <|> some .help }⟩,
   ⟨["--json"], .set fun s => { s with json := true }⟩,
   ⟨["--plain"], .set fun s => { s with plain := true }⟩,
   ⟨["--no-color"], .set fun s => { s with noColour := true }⟩,
   ⟨["--quiet", "-q"], .set fun s => { s with quiet := true }⟩,
   ⟨["--verbose", "-v"], .set fun s => { s with verbose := true }⟩,
   ⟨["--output", "-o"], .take fun file s => { s with file := some file }⟩]

/-- The output that the general settings ask for, away from a terminal. -/
def General.output (s : General) : Output :=
  let wanted : Wanted := if s.json then .fixed .json else if s.plain then .fixed .plain else .auto
  { format := wanted.resolve false true
    quiet := s.quiet
    verbose := s.verbose
    file := s.file }

/-- The settings of a single command. -/
structure Details where
  help : Bool := false
  target : Option String := none
  className : Option String := none
  moduleName : Option String := none
  multiple : Option Bool := none
  path : Option String := none
  requestBodyName : Option String := none
  es6 : Option Bool := none
  esnext : Option Bool := none
  strictContentType : Option Bool := none
  template : Option String := none
  methodTemplate : Option String := none
deriving DecidableEq, Repr

def optionalBool : Option Bool → Value
  | some b => .bool b
  | none => .null

/-- The options among the details, null where they are not given. -/
def Details.options (d : Details) : Entries :=
  [(.str Options.classNameField.snake, .optional d.className),
   (.str Options.moduleNameField.snake, .optional d.moduleName),
   (.str Options.multipleField.snake, optionalBool d.multiple),
   (.str Options.pathField.snake, .optional d.path),
   (.str Options.requestBodyNameField.snake, .optional d.requestBodyName),
   (.str Options.es6Field.snake, optionalBool d.es6),
   (.str Options.esnextField.snake, optionalBool d.esnext),
   (.str Options.strictContentTypeField.snake, optionalBool d.strictContentType)]

/-! ## Commands -/

inductive Command
  | view
  | methods
  | definitions
  | render
deriving DecidableEq, Repr

namespace Command

def word : Command → String
  | view => "view"
  | methods => "methods"
  | definitions => "definitions"
  | render => "render"

def ofWord? (s : String) : Option Command :=
  [view, methods, definitions, render].find? (·.word == s)

def helpSwitch : Switch Details :=
  ⟨["--help"], .set fun d => { d with help := true }⟩

def targetSwitch : Switch Details :=
  ⟨["--target", "-t"], .take fun s d => { d with target := some s }⟩

def nameSwitches : List (Switch Details) :=
  [⟨["--class-name"], .take fun s d => { d with className := some s }⟩,
   ⟨["--module-name"], .take fun s d => { d with moduleName := some s }⟩,
   ⟨["--request-body-name"], .take fun s d => { d with requestBodyName := some s }⟩]

/-- The switches for the layout of a client. -/
def layoutSwitches : List (Switch Details) :=
  [⟨["--multiple"], .set fun d => { d with multiple := some true }⟩,
   ⟨["--single"], .set fun d => { d with multiple := some false }⟩,
   ⟨["--path"], .take fun s d => { d with path := some s }⟩,
   ⟨["--es6"], .set fun d => { d with es6 := some true }⟩,
   ⟨["--no-es6"], .set fun d => { d with es6 := some false }⟩,
   ⟨["--esnext"], .set fun d => { d with esnext := some true }⟩,
   ⟨["--no-esnext"], .set fun d => { d with esnext := some false }⟩,
   ⟨["--strict-content-type"], .set fun d => { d with strictContentType := some true }⟩,
   ⟨["--first-content-type"], .set fun d => { d with strictContentType := some false }⟩]

def templateSwitchName : String := "--template"

def templateSwitches : List (Switch Details) :=
  [⟨[templateSwitchName], .take fun s d => { d with template := some s }⟩,
   ⟨["--method-template"], .take fun s d => { d with methodTemplate := some s }⟩]

def switches : Command → List (Switch Details)
  | view => helpSwitch :: targetSwitch :: (nameSwitches ++ layoutSwitches)
  | methods | definitions => [helpSwitch, targetSwitch]
  | render => helpSwitch :: (nameSwitches ++ templateSwitches)

end Command

/-! ## Invocations -/

/-- A command with everything that it is run with. -/
structure Request where
  general : General
  command : Command
  source : String
  details : Details
deriving DecidableEq, Repr

/-- Whether a request asks for diagnostics without colours, by itself or through the variables of its
surroundings. In colours the brackets in a message are read as markup, and a message may fail for them. -/
def Request.isColourless (r : Request) (env : List (String × String)) : Bool :=
  r.general.noColour || ApiView.isColourless env

/-- The target that a request names. Templates are always rendered for the one without a style of its
own. -/
def Request.target (r : Request) : Option Value :=
  match r.command with
  | .render => some (.str Target.custom.word)
  | _ => r.details.target.map .str

inductive Invocation
  | help (exitCode : Nat)
  | version
  | run (request : Request)
deriving DecidableEq, Repr

/-- The invocation of a command with the words after its name. -/
def Invocation.ofCommand (general : General) (command : Command) (words : List String) :
    Except Misuse Invocation := do
  let (details, positional) ← readWords command.switches true {} words
  if details.help then return .help 0
  match positional with
  | [] => throw .missingSource
  | source :: extra =>
    -- A missing switch is told before words too many.
    if command == .render && details.template.isNone then
      throw (.missingSwitch Command.templateSwitchName)
    else if extra.isEmpty then return .run ⟨general, command, source, details⟩
    else throw (.extraWords extra)

/-- What is shown in place of running a command, if that was asked for. -/
def Showing.invocation : Showing → Invocation
  | .help => .help 0
  | .version => .version

/-- The invocation of words that begin with no command. Switches among them still count, so that
something can be asked for behind `--`. -/
def Invocation.ofStray (name : String) (words : List String) : Except Misuse Invocation := do
  let (general, _) ← readWords generalSwitches false {} (name :: words)
  match general.showing with
  | some showing => return showing.invocation
  | none => throw (.unknownCommand name)

/-- The invocation that a row of words is. No words at all are a question for help, and wrong use. -/
def Invocation.read (words : List String) : Except Misuse Invocation :=
  if words.isEmpty then .ok (.help 2)
  else do
    let (general, words) ← readWords generalSwitches false {} words
    match general.showing, words with
    | some showing, _ => return showing.invocation
    | none, [] => throw .missingCommand
    | none, name :: words =>
      match Command.ofWord? name with
      | some command => ofCommand general command words
      | none => ofStray name words

end CommandLine
end ApiView
