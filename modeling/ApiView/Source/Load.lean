import ApiView.Source.Content
import ApiView.Source.ContentType
import ApiView.Source.Files
import ApiView.Text.LetterCase

/-!
# Loading a document

A document comes from a file, from an address on the web, or from standard input, which is called
`-`.

* `Reply`, `FileFault`, `InputFault`: what an address answers, and what keeps a file or standard input
  from being read;
* `Surroundings`: everything that a document can come from;
* `loadInput`, `loadReply`, `loadFile`: a document from each kind of source;
* `load`: a document from the source that a text names.
-/

namespace ApiView

/-! ## Surroundings -/

/-- What asking an address leads to. -/
inductive Reply
  /-- The address is none that can be asked. -/
  | unasked
  | failed (reason : String)
  | answered (status : Int) (contentType : String) (body : List UInt8)
deriving DecidableEq, Repr

/-- What keeps a file from being read. -/
inductive FileFault
  /-- A directory on the way cannot be looked into, so that it is not known whether there is a file. -/
  | hidden
  | unreadable (reason : String)
deriving DecidableEq, Repr

/-- What keeps standard input from being read. -/
inductive InputFault
  | unreadable (reason : String)
  | notUtf8
deriving DecidableEq, Repr

/-- What documents can come from, and what there is to read them with. -/
structure Surroundings where
  files : Files := []
  fileFault : String → Option FileFault := fun _ => none
  input : String := ""
  inputFault : Option InputFault := none
  ask : String → Reply := fun _ => .failed "no network"
  charsets : FurtherCharsets := fun _ => none
  room : Room := {}

/-! ## Kinds of sources -/

def loadInput (around : Surroundings) : Except Failure Entries :=
  match around.inputFault with
  | some (.unreadable reason) => .error (.load (.inputUnreadable reason))
  | some .notUtf8 => .error (.defect .notUtf8)
  | none =>
    if Text.isBlankText around.input then .error (.load .noInput)
    else readWithin around.room .unknown around.input.toList

def hintOfContentType (contentType : String) : Hint :=
  let mentions (word : String) : Bool := Text.hasPart word.toList contentType.toList
  if mentions "json" then .json
  else if mentions "yaml" || mentions "yml" then .yaml
  else .unknown

/-- The document that an address answers with. -/
def loadReply (around : Surroundings) (address : String) : Except Failure Entries :=
  match around.ask address with
  | .unasked => .error (.defect .unaskable)
  | .failed reason => .error (.load (.fetchFailed address reason))
  | .answered status contentType body =>
    if 200 ≤ status && status < 300 then
      match ContentType.bodyText around.charsets contentType body with
      | .ok text => readWithin around.room (hintOfContentType contentType) text
      | .error d => .error (.defect d)
    else .error (.load (.httpStatus status address))

def hintOfSuffix (suffix : List Char) : Hint :=
  match Text.toLower (String.ofList suffix) with
  | ".json" => .json
  | ".yaml" | ".yml" => .yaml
  | _ => .unknown

/-- The document in a file. -/
def loadFile (around : Surroundings) (path : String) : Except Failure Entries :=
  let place := FilePath.ofText path
  match around.fileFault path, around.files.look place with
  | some .hidden, _ | none, .error .tooLong => .error (.defect .unopenedFile)
  | some (.unreadable reason), _ => .error (.load (.fileUnreadable path reason))
  | none, .error _ => .error (.load (.fileNotFound path))
  | none, .ok bytes =>
    match decodeText bytes with
    | none => .error (.defect .notUtf8)
    | some text =>
      if text.all Text.isBlank then .error (.load (.fileEmpty path))
      else readWithin around.room (hintOfSuffix place.suffix) text

/-! ## Sources -/

def isAddress (source : String) : Bool :=
  "http://".toList.isPrefixOf source.toList || "https://".toList.isPrefixOf source.toList

def load (around : Surroundings) (source : String) : Except Failure Entries :=
  if source == "-" then loadInput around
  else if isAddress source then loadReply around source
  else loadFile around source

end ApiView
