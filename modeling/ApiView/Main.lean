import ApiView.CommandLine.Run

/-!
# The program

Reads the files and variables that a command line is about, and carries out its report.
-/

namespace ApiView
namespace CommandLine

partial def readAll (stream : IO.FS.Stream) : IO String := do
  let line ← stream.getLine
  if line.isEmpty then return "" else return line ++ (← readAll stream)

def Request.paths (r : Request) : List String :=
  [projectFile, r.source] ++ r.details.template.toList ++ r.details.methodTemplate.toList

/-- The paths that lead to files, with what the files hold. -/
def readFiles (paths : List String) : IO Files := do
  let mut files : Files := []
  for path in paths do
    try
      let bytes ← IO.FS.readBinFile (Text.plain path)
      files := files ++ [(FilePath.ofText path, bytes.toList)]
    catch _ => pure ()
  return files

def readVariables (names : List String) : IO (List (String × String)) := do
  let mut env := []
  for name in names do
    if let some value ← IO.getEnv name then
      env := env ++ [(name, Text.ofPlain value)]
  return env

/-- What a request can see. -/
def situationOf (r : Request) : IO Situation := do
  let files ← readFiles r.paths
  let input ← if r.source == "-" then readAll (← IO.getStdin) else pure ""
  let env ← readVariables
    [Environment.classNameVariable, Environment.moduleNameVariable, Environment.targetVariable]
  return { files := files
           input := String.ofList (Text.unifyNewlines (Text.ofPlain input).toList)
           env := env }

def situation (words : List String) : IO Situation := do
  match Invocation.read words with
  | .ok (.run request) => situationOf request
  | _ => return {}

def dataFile? (words : List String) : Option String :=
  match Invocation.read words with
  | .ok (.run request) => request.general.output.file?
  | _ => none

/-- The report on a command line, after its data has been written if it goes to a file. A file that
cannot be written changes the report. -/
def carryOut (s : Situation) (words : List String) : IO Report := do
  let report := run s words
  match dataFile? words, report.printed.file with
  | some path, some text =>
    try
      IO.FS.writeFile (Text.plain path) (Text.plain text)
      return report
    catch _ => return run { s with writable := fun _ => false } words
  | _, _ => return report

end CommandLine
end ApiView

def main (words : List String) : IO UInt32 := do
  let words := words.map ApiView.Text.ofPlain
  let report ← ApiView.CommandLine.carryOut (← ApiView.CommandLine.situation words) words
  (← IO.getStderr).putStr (ApiView.Text.plain report.printed.stderr)
  (← IO.getStdout).putStr (ApiView.Text.plain report.printed.stdout)
  return report.exitCode.toUInt32
