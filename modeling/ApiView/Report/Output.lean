import ApiView.Report.Table

/-!
# Output

Data goes to standard output or to a file, diagnostics go to standard error.

* `Format`, `Wanted`: how data is laid out, and what is asked for;
* `Output`: the settings of a run;
* `Data`, `Notice`: what is printed;
* `Printed`: what printing leaves behind;
* `Output.print`, `Output.tell`: print data, print a diagnostic.
-/

namespace ApiView

/-! ## Formats -/

inductive Format
  | json
  | plain
  | rich
deriving DecidableEq, Repr

def Format.word : Format → String
  | .json => "json"
  | .plain => "plain"
  | .rich => "rich"

/-- The format that is asked for: one of them, or the one that suits the surroundings. -/
inductive Wanted
  | auto
  | fixed (format : Format)
deriving DecidableEq, Repr

/-- The format for what is asked: on a terminal with colours the rich one suits, elsewhere the plain
one. -/
def Wanted.resolve (terminal colourless : Bool) : Wanted → Format
  | .fixed format => format
  | .auto => if terminal && !colourless then .rich else .plain

def isColourless (env : List (String × String)) : Bool :=
  (env.lookup "NO_COLOR").isSome || env.lookup "TERM" == some "dumb"

/-! ## What is printed -/

inductive Data
  | text (s : String)
  | document (v : Value)
  | table (t : Table)
deriving DecidableEq, Repr

/-- Data in writing. Only tables depend on the format. -/
def Data.written (format : Format) : Data → String
  | .text s => s
  | .document v => String.ofList (Json.indented 0 v)
  | .table t =>
    match format with
    | .json => String.ofList (Json.indented 0 t.records)
    | .plain | .rich => String.ofList t.lines

inductive Notice
  | info (message : String)
  | success (message : String)
  | warning (message : String)
  | error (message : String)
  | debug (message : String)
deriving DecidableEq, Repr

def Notice.written : Notice → String
  | .info message | .success message => message
  | .warning message => "Warning: " ++ message
  | .error message => "Error: " ++ message
  | .debug message => "[debug] " ++ message

/-! ## Printing -/

/-- The settings of a run: the format, what is said on the way, and the file that data goes to. -/
structure Output where
  format : Format := .plain
  quiet : Bool := false
  verbose : Bool := false
  file : Option String := none
deriving DecidableEq, Repr

/-- What printing leaves behind. The file holds what was printed to it last. -/
structure Printed where
  stdout : String := ""
  stderr : String := ""
  file : Option String := none
deriving DecidableEq, Repr

namespace Printed

def andThen (a b : Printed) : Printed :=
  { stdout := a.stdout ++ b.stdout
    stderr := a.stderr ++ b.stderr
    file := b.file <|> a.file }

def diagnostics (lines : List String) : Printed :=
  { stderr := String.join (lines.map fun line => line ++ "\n") }

end Printed

/-- A text with a line break at its end, one added if it has none. -/
def endLine (s : String) : String :=
  if s.toList.getLast? == some '\n' then s else s ++ "\n"

namespace Output

/-- The file that data goes to; an empty name is none. -/
def file? (o : Output) : Option String :=
  o.file.filter fun path => !path.isEmpty

def shows (o : Output) : Notice → Bool
  | .info _ | .success _ => !o.quiet
  | .warning _ | .error _ => true
  | .debug _ => o.verbose

def tell (o : Output) (notice : Notice) : Printed :=
  if o.shows notice then .diagnostics [notice.written] else {}

/-- Print data. Standard output gets a line break after it, a file only where it lacks one. -/
def print (o : Output) (data : Data) : Printed :=
  let text := data.written o.format
  if o.file?.isSome then { file := some (endLine text) } else { stdout := text ++ "\n" }

end Output
end ApiView
