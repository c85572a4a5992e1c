import ApiView.Text.Newlines
import ApiView.Text.Quoted
import ApiView.Text.Runs
import ApiView.Text.Utf8

/-!
# Files

The files that a run can see, and how a path names one of them.

* `FilePath`: a path in its shortest form;
* `FilePath.suffix`: the ending of the last name;
* `Spot`, `Files.reach`: where a walk along a path leads;
* `Files.look`, `Files.canWrite`: what is found under a path, and whether a file can be put there;
* `decodeText`: the text in a row of bytes.
-/

namespace ApiView

/-! ## Paths -/

/-- A path: its root, which is empty for a relative one, and the names under it. -/
structure FilePath where
  root : String
  names : List String
deriving DecidableEq, Repr

namespace FilePath

def rootOf : List Char → String
  | '/' :: '/' :: '/' :: _ => "/"
  | '/' :: '/' :: _ => "//"
  | '/' :: _ => "/"
  | _ => ""

/-- The path that a text describes. Doubled slashes, a slash at the end and the name `.` say
nothing. -/
def ofText (s : String) : FilePath :=
  let names := (Text.fieldsAt '/' s.toList).map String.ofList
  ⟨rootOf s.toList, names.filter fun name => name != "" && name != "."⟩

/-- A path in writing; the empty one is a point. -/
def text (p : FilePath) : String :=
  if p.root.isEmpty && p.names.isEmpty then "." else p.root ++ "/".intercalate p.names

/-- The ending of a name: its last point and what follows, if there is something before and after
the point. -/
def suffixOf (name : List Char) : List Char :=
  let ending := (name.reverse.takeWhile (· != '.')).reverse
  let start := name.take (name.length - ending.length - 1)
  if ending.isEmpty || start.isEmpty then [] else '.' :: ending

def suffix (p : FilePath) : List Char :=
  suffixOf ((p.names.getLastD "").toList)

def maxNameSize : Nat := 255

def maxSize : Nat := 4095

def isLongName (name : String) : Bool :=
  maxNameSize < (Text.utf8Bytes name).length

end FilePath

/-! ## Files -/

abbrev Files := List (FilePath × List UInt8)

/-- Why a path leads to no file. -/
inductive NoFile
  | absent
  | directory
  | throughFile
  | tooLong
  /-- The path has a character that ends it for the system. -/
  | cutShort
deriving DecidableEq, Repr

def NoFile.text : NoFile → String
  | .absent => "[Errno 2] No such file or directory"
  | .directory => "[Errno 21] Is a directory"
  | .throughFile => "[Errno 20] Not a directory"
  | .tooLong => "[Errno 36] File name too long"
  | .cutShort => "embedded null byte"

/-- A place that a walk reaches: so many levels above where it began, and then down some names. -/
structure Spot where
  above : Nat := 0
  names : List String := []
deriving DecidableEq, Repr

def Spot.up (spot : Spot) : Spot :=
  if spot.names.isEmpty then ⟨spot.above + 1, []⟩ else ⟨spot.above, spot.names.dropLast⟩

def Spot.down (spot : Spot) (name : String) : Spot :=
  ⟨spot.above, spot.names ++ [name]⟩

namespace Files

/-- What the file at a spot holds. Nothing is known of files above the place of a run. -/
def fileAt? (files : Files) (root : String) (spot : Spot) : Option (List UInt8) :=
  if spot.above == 0 then files.lookup ⟨root, spot.names⟩ else none

/-- Whether there is a directory at a spot: where the walk began, above it, and wherever a file is
in. -/
def isDirectoryAt (files : Files) (root : String) (spot : Spot) : Bool :=
  spot.names.isEmpty ||
    (spot.above == 0 && files.any fun (q, _) =>
      q.root == root && q.names != spot.names && spot.names.isPrefixOf q.names)

/-- One step of a walk. Names are looked up in directories only, and `..` is one of them. -/
def enter (files : Files) (root : String) (spot : Spot) (name : String) : Except NoFile Spot :=
  if files.isDirectoryAt root spot then
    if name == ".." then .ok spot.up
    else if FilePath.isLongName name then .error .tooLong
    else .ok (spot.down name)
  else if (files.fileAt? root spot).isSome then .error .throughFile
  else .error .absent

/-- The spot that a path leads to; every name but the last has to be one of a directory. -/
def reach (files : Files) (p : FilePath) : Except NoFile Spot :=
  if p.text.contains '\x00' then .error .cutShort
  else if FilePath.maxSize < (Text.utf8Bytes p.text).length then .error .tooLong
  else p.names.foldlM (files.enter p.root) {}

/-- What is found under a path. A file is found under its own path, whatever is known about the
directories on the way. -/
def look (files : Files) (p : FilePath) : Except NoFile (List UInt8) :=
  match files.lookup p with
  | some bytes => .ok bytes
  | none => do
    let spot ← files.reach p
    match files.fileAt? p.root spot with
    | some bytes => return bytes
    | none => throw (if files.isDirectoryAt p.root spot then .directory else .absent)

/-- Whether a file can be written under a path: the path has a name at its end, is no directory, and
lies in one. Nothing is known about places away from the run. -/
def canWrite (files : Files) (path : String) : Bool :=
  let p := FilePath.ofText path
  let last := (Text.fieldsAt '/' path.toList).getLastD []
  p.root.isEmpty && !last.isEmpty && last != ['.'] &&
    match files.reach p, files.reach ⟨p.root, p.names.dropLast⟩ with
    | .ok spot, .ok parent => !files.isDirectoryAt p.root spot && files.isDirectoryAt p.root parent
    | _, _ => false

end Files

/-! ## Text in files -/

/-- The text in a row of bytes, its line breaks unified; none if the bytes are no UTF-8. -/
def decodeText (bytes : List UInt8) : Option (List Char) :=
  (Text.ofUtf8? bytes).map fun s => Text.unifyNewlines s.toList

end ApiView
