import ApiView.Failure
import ApiView.View.Model

/-!
# The form of a view that templates see

Each record as a mapping with camel-case names, every field present and null where it is unset.

* `Parameter.form`, `Header.form`, `Response.form`, `Scheme.form`, `Method.form`,
  `Definition.form`: the parts;
* `View.form`: the whole;
* `Parameter.plainObstacle?`, `View.plainObstacle?`: the first untyped part that has no such form;
* `Parameter.handed`, `View.handed`: the form that templates are handed.
-/

namespace ApiView

/-- A parameter as templates see it. -/
def Parameter.form (p : Parameter) : Value :=
  .object
    [("name", .str p.name),
     ("camelCaseName", .str p.camelCaseName),
     ("location", .str p.location.word),
     ("description", .optional p.description),
     ("required", .bool p.required),
     ("isPathParameter", .bool p.isPath),
     ("isQueryParameter", .bool p.isQuery),
     ("isHeaderParameter", .bool p.isHeader),
     ("isBodyParameter", .bool p.isBody),
     ("isFormParameter", .bool p.isForm),
     ("isSingleton", .bool p.isSingleton),
     ("singleton", p.singleton.plain),
     ("isPatternType", .bool p.isPattern),
     ("pattern", .optional p.pattern),
     ("default", p.default.plain),
     ("defaultJson", .optional p.defaultJson),
     ("tsType", .str p.type),
     ("cardinality", .str p.cardinality)]

def Header.form (h : Header) : Value :=
  .object [("name", .str h.name), ("value", .str h.value)]

def Response.form (r : Response) : Value :=
  .object
    [("statusCode", .str r.status),
     ("contentType", .str r.contentType),
     ("tsType", .str r.type),
     ("description", .optional r.description),
     ("isLast", .bool r.isLast)]

def Scheme.form (s : Scheme) : Value :=
  .object
    [("name", .str s.name),
     ("kind", .str s.kind.word),
     ("description", .optional s.description),
     ("paramName", .optional s.parameterName),
     ("location", .optional s.location)]

/-- A method as templates see it. -/
def Method.form (m : Method) : Value :=
  .object
    [("methodName", .str m.name),
     ("method", .str m.verb.word),
     ("path", .str m.path),
     ("className", .optional m.className),
     ("summary", .optional m.summary),
     ("externalDocs", (m.externalDocs.map fun docs => (Value.map docs).plain).getD .null),
     ("tags", .list (m.tags.map .str)),
     ("isGET", .bool m.isGet),
     ("isPOST", .bool m.isPost),
     ("isSecure", .bool m.isSecure),
     ("isSecureToken", .bool m.credentials.token),
     ("isSecureApiKey", .bool m.credentials.apiKey),
     ("isSecureBasic", .bool m.credentials.basic),
     ("parameters", .list (m.parameters.map Parameter.form)),
     ("headers", .list (m.headers.map Header.form)),
     ("responses", .list (m.responses.map Response.form)),
     ("destination", .optional m.destination),
     ("hasBody", .bool m.hasBody),
     ("isFormMethod", .bool m.isForm),
     ("hasExtraHeader", .bool m.hasExtraHeader),
     ("allOptional", .bool m.allOptional)]

def Definition.form (d : Definition) : Value :=
  .object
    [("name", .str d.name), ("description", .optional d.description), ("tsType", .str d.type)]

/-- A view as templates see it. -/
def View.form (v : View) : Value :=
  .object
    [("version", .str v.grammar.version),
     ("description", .optional v.description),
     ("domain", .str v.domain),
     ("moduleName", .optional v.moduleName),
     ("className", .optional v.className),
     ("imports", .list (v.imports.map .str)),
     ("isNode", .bool v.isNode),
     ("isES6", .bool v.isES6),
     ("isSecure", .bool v.isSecure),
     ("isSecureToken", .bool v.credentials.token),
     ("isSecureApiKey", .bool v.credentials.apiKey),
     ("isSecureBasic", .bool v.credentials.basic),
     ("securitySchemes", .list (v.schemes.map Scheme.form)),
     ("methods", .list (v.methods.map Method.form)),
     ("definitions", .list (v.definitions.map Definition.form))]

/-! ## Obstacles -/

def Parameter.plainObstacle? (p : Parameter) : Option PlainObstacle :=
  p.singleton.plainObstacle?.orElse fun _ => p.default.plainObstacle?

def Method.plainObstacle? (m : Method) : Option PlainObstacle :=
  -- The mapping of the documentation belongs to the method, so its values have all of the levels.
  (m.externalDocs.bind fun docs => (Value.map docs).plainObstacleWithin? (maxLevels + 1)).orElse fun _ =>
    m.parameters.findSome? Parameter.plainObstacle?

/-- The first part of a view that has no plain form. -/
def View.plainObstacle? (v : View) : Option PlainObstacle :=
  v.methods.findSome? Method.plainObstacle?

/-- A form, unless there is an obstacle to it. -/
def unobstructed (obstacle : Option PlainObstacle) (form : Value) : Except Failure Value :=
  match obstacle with
  | none => .ok form
  | some o => .error (.defect o.defect)

def Parameter.handed (p : Parameter) : Except Failure Value :=
  unobstructed p.plainObstacle? p.form

/-- A view as templates are handed it. -/
def View.handed (v : View) : Except Failure Value :=
  unobstructed v.plainObstacle? v.form

end ApiView
