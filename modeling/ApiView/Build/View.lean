import ApiView.Build.Legacy
import ApiView.Build.OpenApi3
import ApiView.Build.Swagger2

/-!
# Building a view

* `Grammar.detect`: the grammar that a document is written in;
* `Build.method`, `Build.steps`: what each grammar brings;
* `Build.draftAll`, `Build.nameMethods`: the methods of a walk, under distinct names;
* `Build.view`: the view of a document of a known grammar;
* `checkOptions`, `buildView`: the view of a document, its grammar detected.
-/

namespace ApiView

/-! ## Grammars -/

/-- The grammar of a document that is a mapping, by its version marker. -/
def Grammar.detectIn (document : Entries) : Except Failure Grammar := do
  match document.member? "swagger" with
  | some marker =>
    let text ← marker.displayed
    if text == "2.0" then return .swagger2 else throw (.version (.swagger text))
  | none =>
    match document.member? "openapi" with
    | some marker =>
      let text ← marker.displayed
      if "3.".toList.isPrefixOf text.toList then return .openApi3
      else throw (.version (.openApi text))
    | none =>
      let marker := document.member? "swaggerVersion"
      if marker.isSome || (document.member "apis").items?.isSome then
        let text ← (marker.getD (.str "1")).displayed
        if "1".toList.isPrefixOf text.toList then return .legacy
        else throw (.version (.legacy text))
      else throw (.version .noMarker)

def Grammar.detect (document : Value) : Except Failure Grammar := do
  match document with
  | .map entries => detectIn entries
  | v =>
    if ← v.mentions "swagger" then throw (.defect .notIndexable)
    if ← v.mentions "openapi" then throw (.defect .notIndexable)
    throw (.defect .notATable)

namespace Build

def steps (grammar : Grammar) (document : Entries) : List Step :=
  match grammar with
  | .legacy => walkApis (document.member "apis")
  | .swagger2 | .openApi3 => walkPaths (document.member "paths")

def method : Grammar → Setup → Operation → Traced Method
  | .legacy => Legacy.method
  | .swagger2 => Swagger2.method
  | .openApi3 => OpenApi3.method

def securityTable : Grammar → Entries → Value
  | .legacy => Legacy.securityTable
  | .swagger2 => Swagger2.securityTable
  | .openApi3 => OpenApi3.securityTable

def definitionsTable : Grammar → Entries → Entries
  | .legacy => Legacy.definitions
  | .swagger2 => Swagger2.definitions
  | .openApi3 => OpenApi3.definitions

def domain : Grammar → Entries → Except Failure String
  | .legacy => Legacy.domain
  | .swagger2 => Swagger2.domain
  | .openApi3 => OpenApi3.domain

def description (grammar : Grammar) (document : Entries) : Value :=
  let ofInfo := ((document.member "info").member? "description").getD .null
  match grammar with
  | .legacy => (document.member "description").orElse ofInfo
  | .swagger2 | .openApi3 => ofInfo

/-! ## Methods -/

/-- The methods of a row of steps, under their base names. -/
def draftAll (grammar : Grammar) (setup : Setup) : List Step → Traced (List Method)
  | [] => return []
  | .visit op :: rest => do
    let m ← method grammar setup op
    return m :: (← draftAll grammar setup rest)
  | .skip line :: rest => do
    Traced.note line.level line.channel line.text
    draftAll grammar setup rest
  | .broken e :: _ => Traced.fail e

def nameMethods (drafts : List Method) : List Method :=
  drafts.zipWith (fun m name => { m with name := name }) (Naming.distinct (drafts.map (·.name)))

/-- The families of credentials that any of the methods needs. -/
def credentialsOf (methods : List Method) : Credentials :=
  methods.foldl (fun c m => c.union m.credentials) {}

/-! ## Definitions -/

def definitionOf (name : Scalar) (schema : Entries) : Except Failure Definition := do
  let type ← TypeText.typeText (.map schema)
  let description := schema.member "description"
  accept .definition
    ((Value.scalar name).textProblems "name" ++ description.optionalTextProblems "description" ++
      (Value.str type).textProblems "ts_type")
    { name := (Value.scalar name).fieldText?.getD ""
      description := description.fieldText?
      type := type }

/-- The named types of a table; entries that are no mappings are left out. -/
def definitionsOf : List (Scalar × Value) → Except Failure (List Definition)
  | [] => return []
  | (name, .map schema) :: rest => do
    let definition ← definitionOf name schema
    return definition :: (← definitionsOf rest)
  | _ :: rest => definitionsOf rest

/-! ## Views -/

/-- The view of a document of a known grammar. -/
def view (grammar : Grammar) (document : Value) (options : Options) (target : Target) :
    Traced View := do
  let document ← document.table
  let setup : Setup := ⟨document, options, target.isServerSide⟩
  let drafts ← draftAll grammar setup (steps grammar document)
  let description := description grammar document
  let domain ← domain grammar document
  let schemes ← Security.readSchemes (securityTable grammar document)
  let definitions ← definitionsOf (definitionsTable grammar document)
  accept .view
    (description.optionalTextProblems "description" ++ (Value.str domain).textProblems "domain")
    { grammar := grammar
      description := description.fieldText?
      domain := domain
      moduleName := options.moduleName
      className := options.className
      imports := options.imports
      isNode := target.isServerSide
      isES6 := options.es6 || target == .react
      -- A table counts even if it is empty.
      isSecure := !(securityTable grammar document).isNull
      credentials := credentialsOf drafts
      schemes := schemes
      methods := nameMethods drafts
      definitions := definitions }

end Build

/-! ## The whole -/

def defaultControllersDir : String := "routes_generated"

def defaultDefinitionsDir : String := "definitions_generated"

/-- A directory name, with a default that the log mentions. -/
def withDefaultDir (subject default : String) (given : Option String) : Traced (Option String) := do
  if (given.getD "").isEmpty then
    Traced.note .info .view
      (subject ++ " directory name not provided, using '" ++ default ++ "'")
    return some default
  else return given

/-- Options that are complete for a document, directory names filled in when methods are grouped. -/
def checkOptions (document : Value) (options : Options) : Traced Options := do
  if !document.truthy then Traced.fail (.missing .document)
  else if !options.multiple then return options
  else if (options.className.getD "").isEmpty then Traced.fail (.missing .className)
  else if (options.path.getD "").isEmpty then Traced.fail (.missing .destination)
  else do
    let controllersDir ← withDefaultDir "Controllers" defaultControllersDir options.controllersDir
    let definitionsDir ← withDefaultDir "Definitions" defaultDefinitionsDir options.definitionsDir
    return { options with controllersDir := controllersDir, definitionsDir := definitionsDir }

def Target.ofValue (v : Value) : Except Failure Target := do
  match v.text?.bind Target.ofWord? with
  | some target => return target
  | none => throw (.usage (.unknownTarget (← v.displayed) Target.words))

/-- The view of a document. -/
def buildView (document : Value) (options : Options) (target : Value) : Traced View := do
  let options ← checkOptions document options
  let target ← Target.ofValue target
  let grammar ← Grammar.detect document
  if target == .typescript && grammar == .legacy then Traced.fail (.version .typedLegacy)
  else do
    Traced.note .debug .view
      ("Building " ++ grammar.version ++ " view for target '" ++ target.word ++ "'")
    Build.view grammar document options target

end ApiView
