import ApiView.Options.Basic
import ApiView.Value.Check

/-!
# Reading options

Options are read from a mapping whose keys are field names in camel or snake case. Every refused
value and every unknown key is reported, values first, in the order of the fields.

* `Options.Field`, `Options.fields`: the two spellings of each field;
* `looseBool`: a boolean in any of its accepted spellings;
* `Options.read`: options from a value;
* `Options.form`: options as a mapping with snake-case names.
-/

namespace ApiView

/-! ## Booleans -/

def asciiLower (s : String) : String :=
  String.ofList (s.toList.map Char.toLower)

def boolWords : List (String × Bool) :=
  [("0", false), ("f", false), ("n", false), ("no", false), ("off", false), ("false", false),
   ("1", true), ("t", true), ("y", true), ("yes", true), ("on", true), ("true", true)]

/-- Whether the integer that a number equals fits 64 bits. The least such integer does so only as an
integer, since as a double it stands for everything that is rounded to it. -/
def isWord64 (s : Scalar) (i : Int) : Bool :=
  match s with
  | .float _ => Int64.minValue.toInt < i && i ≤ Int64.maxValue.toInt
  | _ => Int64.minValue.toInt ≤ i && i ≤ Int64.maxValue.toInt

/-- A boolean: itself, the numbers 0 and 1, or one of the words, in letters of any case. A whole
number counts as an attempt to write one as long as it fits 64 bits. -/
def looseBool : Value → Except ProblemKind Bool
  | .scalar (.bool b) => .ok b
  | .scalar (.str s) =>
    if Text.isWhole s then
      match boolWords.lookup (asciiLower s) with
      | some b => .ok b
      | none => .error .unreadableBoolean
    else .error .notUnicode
  | .scalar s =>
    match s.asInt? with
    | some 0 => .ok false
    | some 1 => .ok true
    | some i => if isWord64 s i then .error .unreadableBoolean else .error .notBoolean
    | none => .error .notBoolean
  | _ => .error .notBoolean

/-! ## Fields -/

namespace Options

/-- A field by its two spellings. -/
structure Field where
  camel : String
  snake : String
deriving DecidableEq, Repr

def classNameField : Field := ⟨"className", "class_name"⟩

def moduleNameField : Field := ⟨"moduleName", "module_name"⟩

def multipleField : Field := ⟨"multiple", "multiple"⟩

/-- The name of every body parameter, in place of the one that a document suggests. -/
def requestBodyNameField : Field := ⟨"requestBodyParameterName", "request_body_parameter_name"⟩

def es6Field : Field := ⟨"isES6", "is_es6"⟩

def esnextField : Field := ⟨"esnext", "esnext"⟩

def importsField : Field := ⟨"imports", "imports"⟩

def pathField : Field := ⟨"path", "path"⟩

def controllersDirField : Field := ⟨"controllersDirName", "controllers_dir_name"⟩

def definitionsDirField : Field := ⟨"definitionsDirName", "definitions_dir_name"⟩

def strictContentTypeField : Field := ⟨"strictContentType", "strict_content_type"⟩

def fields : List Field :=
  [classNameField, moduleNameField, multipleField, requestBodyNameField, es6Field, esnextField,
   importsField, pathField, controllersDirField, definitionsDirField, strictContentTypeField]

/-- The spelling under which a field is given and its value. The camel-case spelling wins. -/
def Field.given? (f : Field) (entries : Entries) : Option (String × Value) :=
  match entries.member? f.camel with
  | some v => some (f.camel, v)
  | none => (entries.member? f.snake).map fun v => (f.snake, v)

/-- Whether a key is the spelling that a field is read under. -/
def isRead (entries : Entries) (key : Scalar) : Bool :=
  -- Of a field that is given under both spellings, the snake-case one is read by nothing.
  fields.any fun f =>
    match f.given? entries with
    | some (spelling, _) => key.same (.str spelling)
    | none => false

def textProblems (entries : Entries) (f : Field) : List Problem :=
  match f.given? entries with
  | some (spelling, v) => v.optionalTextProblems spelling
  | none => []

def textOf (entries : Entries) (f : Field) : Option String :=
  (f.given? entries).bind fun (_, v) => v.text?

def boolProblems (entries : Entries) (f : Field) : List Problem :=
  match f.given? entries with
  | some (spelling, v) =>
    match looseBool v with
    | .ok _ => []
    | .error kind => [⟨[.str spelling], kind⟩]
  | none => []

def boolOf (entries : Entries) (f : Field) : Bool :=
  match f.given? entries with
  | some (_, v) => (looseBool v).toOption.getD false
  | none => false

def textsProblems (entries : Entries) (f : Field) : List Problem :=
  match f.given? entries with
  | some (spelling, .list items) => listedTextProblems spelling 0 items
  | some (spelling, _) => [⟨[.str spelling], .notList⟩]
  | none => []

def textsOf (entries : Entries) (f : Field) : List String :=
  match f.given? entries with
  | some (_, .list items) => items.filterMap Value.text?
  | _ => []

def unknownProblems (entries : Entries) : List Problem :=
  (entries.keys.filter fun key => !isRead entries key).map fun key => ⟨[key], .unknownField⟩

/-- Everything that is wrong with a mapping of options. -/
def problems (entries : Entries) : List Problem :=
  textProblems entries classNameField ++
  textProblems entries moduleNameField ++
  boolProblems entries multipleField ++
  textProblems entries requestBodyNameField ++
  boolProblems entries es6Field ++
  boolProblems entries esnextField ++
  textsProblems entries importsField ++
  textProblems entries pathField ++
  textProblems entries controllersDirField ++
  textProblems entries definitionsDirField ++
  boolProblems entries strictContentTypeField ++
  unknownProblems entries

/-- The options that a mapping without problems describes. -/
def ofEntries (entries : Entries) : Options :=
  { className := textOf entries classNameField
    moduleName := textOf entries moduleNameField
    multiple := boolOf entries multipleField
    requestBodyName := textOf entries requestBodyNameField
    es6 := boolOf entries es6Field
    esnext := boolOf entries esnextField
    imports := textsOf entries importsField
    path := textOf entries pathField
    controllersDir := textOf entries controllersDirField
    definitionsDir := textOf entries definitionsDirField
    strictContentType := boolOf entries strictContentTypeField }

def readEntries (entries : Entries) : Except (List Problem) Options :=
  let found := problems entries
  if found.isEmpty then .ok (ofEntries entries) else .error found

/-- Options from a value, or everything that is wrong with it. -/
def read : Value → Except (List Problem) Options
  | .map entries => readEntries entries
  | _ => .error [⟨[], .notRecord⟩]

/-! ## Written options -/

/-- Options as a mapping with snake-case names. -/
def form (o : Options) : Entries :=
  [(.str classNameField.snake, .optional o.className),
   (.str moduleNameField.snake, .optional o.moduleName),
   (.str multipleField.snake, .bool o.multiple),
   (.str requestBodyNameField.snake, .optional o.requestBodyName),
   (.str es6Field.snake, .bool o.es6),
   (.str esnextField.snake, .bool o.esnext),
   (.str importsField.snake, .list (o.imports.map .str)),
   (.str pathField.snake, .optional o.path),
   (.str controllersDirField.snake, .optional o.controllersDir),
   (.str definitionsDirField.snake, .optional o.definitionsDir),
   (.str strictContentTypeField.snake, .bool o.strictContentType)]

end Options
end ApiView
