import ApiView.Value.Basic

/-!
# The view of an API

The description of a client that templates are rendered from, the same for every grammar of
documents.

* `Location`, `Parameter`: a parameter of a method and where it travels;
* `Header`, `Response`: what a method sends and gets;
* `Credential`, `Credentials`, `Scheme`: families of credentials;
* `Method`, `Definition`, `View`: an operation, a named type, and the whole.
-/

namespace ApiView

/-! ## Parameters -/

inductive Location
  | path
  | query
  | header
  | body
  | form
deriving DecidableEq, Repr

def Location.word : Location → String
  | .path => "path"
  | .query => "query"
  | .header => "header"
  | .body => "body"
  | .form => "form"

/-- A parameter of a method, with everything a template asks about it. -/
structure Parameter where
  name : String
  camelCaseName : String
  location : Location
  description : Option String := none
  required : Bool := false
  isPath : Bool := false
  isQuery : Bool := false
  isHeader : Bool := false
  isBody : Bool := false
  isForm : Bool := false
  isSingleton : Bool := false
  singleton : Value := .null
  isPattern : Bool := false
  pattern : Option String := none
  default : Value := .null
  defaultJson : Option String := none
  type : String := "any"
  cardinality : String := "?"
deriving DecidableEq, Repr

/-! ## Headers and responses -/

structure Header where
  name : String
  value : String
deriving DecidableEq, Repr

/-- One shape of a successful response. -/
structure Response where
  status : String
  contentType : String
  type : String
  description : Option String := none
  isLast : Bool := false
deriving DecidableEq, Repr

/-! ## Credentials -/

inductive Credential
  | token
  | apiKey
  | basic
deriving DecidableEq, Repr

def Credential.word : Credential → String
  | .token => "oauth2"
  | .apiKey => "apiKey"
  | .basic => "basic"

/-- Which families of credentials apply. -/
structure Credentials where
  token : Bool := false
  apiKey : Bool := false
  basic : Bool := false
deriving DecidableEq, Repr

namespace Credentials

def union (a b : Credentials) : Credentials :=
  ⟨a.token || b.token, a.apiKey || b.apiKey, a.basic || b.basic⟩

def any (c : Credentials) : Bool :=
  c.token || c.apiKey || c.basic

end Credentials

/-- A named security scheme. The name and location of a parameter are known for keys only. -/
structure Scheme where
  name : String
  kind : Credential
  description : Option String := none
  parameterName : Option String := none
  location : Option String := none
deriving DecidableEq, Repr

/-! ## Methods and views -/

/-- The verbs that operations may have. -/
inductive Verb
  | get
  | post
  | put
  | delete
  | patch
  | copy
  | head
  | options
  | link
  | unlink
  | purge
  | lock
  | unlock
  | propfind
deriving DecidableEq, Repr

namespace Verb

def all : List Verb :=
  [get, post, put, delete, patch, copy, head, options, link, unlink, purge, lock, unlock, propfind]

/-- The word for a verb, in capitals. -/
def word : Verb → String
  | get => "GET"
  | post => "POST"
  | put => "PUT"
  | delete => "DELETE"
  | patch => "PATCH"
  | copy => "COPY"
  | head => "HEAD"
  | options => "OPTIONS"
  | link => "LINK"
  | unlink => "UNLINK"
  | purge => "PURGE"
  | lock => "LOCK"
  | unlock => "UNLOCK"
  | propfind => "PROPFIND"

def ofWord? (s : String) : Option Verb :=
  all.find? (·.word == s)

end Verb

/-- A retained operation under its name. -/
structure Method where
  name : String
  verb : Verb
  path : String
  className : Option String := none
  summary : Option String := none
  externalDocs : Option Entries := none
  tags : List String := []
  isGet : Bool := false
  isPost : Bool := false
  isSecure : Bool := false
  credentials : Credentials := {}
  parameters : List Parameter := []
  headers : List Header := []
  responses : List Response := []
  destination : Option String := none
  hasBody : Bool := false
  isForm : Bool := false
  hasExtraHeader : Bool := false
  allOptional : Bool := true
deriving DecidableEq, Repr

/-- A shared schema as a named type. -/
structure Definition where
  name : String
  description : Option String := none
  type : String
deriving DecidableEq, Repr

/-- The grammars that documents are written in. -/
inductive Grammar
  | legacy
  | swagger2
  | openApi3
deriving DecidableEq, Repr

def Grammar.version : Grammar → String
  | .legacy => "1.x"
  | .swagger2 => "2.0"
  | .openApi3 => "3.x"

/-- The view of a document. -/
structure View where
  grammar : Grammar
  description : Option String := none
  domain : String := ""
  moduleName : Option String := none
  className : Option String := none
  imports : List String := []
  isNode : Bool := false
  isES6 : Bool := false
  isSecure : Bool := false
  credentials : Credentials := {}
  schemes : List Scheme := []
  methods : List Method := []
  definitions : List Definition := []
deriving DecidableEq, Repr

end ApiView
