import ApiView.Template.Node
import ApiView.Text.LetterCase
import ApiView.Value.Access
import ApiView.View.Form

/-!
# Rendering

A template is rendered with names bound to values. An expression may stand for nothing, which can be
tested for but not used.

Templates outside of the language of `Template.Node` are usage faults here, and some of them are rendered
by a full engine. A run takes what renders templates from its situation, `renderView` being the one that is
written out.

* `Context`: the values of names;
* `Meaning`, `Expr.meaning`: what an expression stands for;
* `renderNodes`: the text of a row of nodes;
* `Templates`, `renderTemplate`: templates that include each other;
* `renderView`: the text of a view.
-/

namespace ApiView
namespace Template

/-- The values of names; the first binding of a name counts. -/
abbrev Context := List (String × Value)

/-! ## Meanings -/

/-- What an expression stands for: a value, or nothing because something is not there. -/
inductive Meaning
  | value (v : Value)
  | nothing (absence : Absence)
deriving DecidableEq, Repr

/-- A value that is used; nothing cannot be. -/
def Meaning.get : Meaning → Except Failure Value
  | value v => .ok v
  | nothing absence => .error (.usage (.template (.undefined absence)))

def kindOf (v : Value) : String :=
  if v.isNull then "None" else v.kindName ++ " object"

/-- A member of a value, or what is not there. -/
def memberOf (v : Value) (member : String) : Meaning :=
  match v.member? member with
  | some w => .value w
  | none => .nothing (.attribute (kindOf v) member)

/-- The element of a row at a position, which counts from the end if it is negative. -/
def elementAt? {α : Type} (items : List α) (i : Int) : Option α :=
  if 0 ≤ i then items[i.toNat]?
  else if i.natAbs ≤ items.length then items[items.length - i.natAbs]?
  else none

/-- The element of a value at a key or position. -/
def element? (v : Value) (index : Scalar) : Option Value :=
  match v with
  | .map entries => Entries.find? index entries
  | .list items =>
    match index with
    | .int i => elementAt? items i
    | .bool b => elementAt? items (if b then 1 else 0)
    | _ => none
  | .scalar (.str s) =>
    match index with
    | .int i => (elementAt? (Text.letters s.toList) i).map fun c => .str (String.ofList c)
    | .bool b =>
      (elementAt? (Text.letters s.toList) (if b then 1 else 0)).map fun c => .str (String.ofList c)
    | _ => none
  | .pair k w =>
    match index with
    | .int i => elementAt? [k, w] i
    | .bool b => elementAt? [k, w] (if b then 1 else 0)
    | _ => none
  | .scalar _ | .set _ | .again _ _ => none

/-- The element of a value at a key or position, or what is not there. -/
def elementOf (v index : Value) : Meaning :=
  let found := match index with
    | .scalar s => element? v s
    | _ => none
  match found, index.text? with
  | some w, _ => .value w
  | none, some member => .nothing (.attribute (kindOf v) member)
  | none, none => .nothing (.element (kindOf v) index.shown)

/-- The element of a value at nothing. Looking nothing up in a mapping uses it; anything else just has
no such element. -/
def elementAtNothing (v : Value) (absence : Absence) : Except Failure Meaning :=
  match v with
  | .map _ => .error (.usage (.template (.undefined absence)))
  | _ => .ok (.nothing (.element (kindOf v) "Undefined"))

def lengthOf (v : Value) : Except Failure Nat :=
  v.iterate.map List.length

def negate : Value → Except Failure Value
  | .scalar (.int i) => .ok (.int (-i))
  | .scalar (.bool b) => .ok (.int (if b then -1 else 0))
  | .scalar (.float x) => .ok (.scalar (.float x.neg))
  | _ => .error (.defect .notNumeric)

/-- What an expression stands for. -/
def Expr.meaning (context : Context) : Expr → Except Failure Meaning
  | .literal s => return .value (.scalar s)
  | .name s =>
    match context.lookup s with
    | some v => return .value v
    | none => return .nothing (.name s)
  | .attribute e member => do return memberOf (← (← e.meaning context).get) member
  | .element e index => do
    let v ← (← e.meaning context).get
    match ← index.meaning context with
    | .value i => return elementOf v i
    | .nothing absence => elementAtNothing v absence
  | .upper e => do
    return .value (.str (Text.toUpper (← (← (← e.meaning context).get).displayed)))
  | .lower e => do
    return .value (.str (Text.toLower (← (← (← e.meaning context).get).displayed)))
  | .length e => do return .value (.int (← lengthOf (← (← e.meaning context).get)))
  | .join e separator => do
    -- That a row is not there is noticed only behind its separator.
    let row ← e.meaning context
    let between ← (← (← separator.meaning context).get).displayed
    let items ← (← row.get).iterate
    return .value (.str (between.intercalate (← displayedAll items)))
  | .isNone e => do
    match ← e.meaning context with
    | .value v => return .value (.bool v.isNull)
    | .nothing _ => return .value (.bool false)
  | .isDefined e => do
    match ← e.meaning context with
    | .value _ => return .value (.bool true)
    | .nothing _ => return .value (.bool false)
  | .negative e => do return .value (← negate (← (← e.meaning context).get))
  | .equal a b => do
    let x ← a.meaning context
    let y ← b.meaning context
    return .value (.bool ((← x.get).same (← y.get)))
  | .not e => do return .value (.bool !(← (← e.meaning context).get).truthy)
  | .and a b => do
    let x ← (← a.meaning context).get
    if x.truthy then b.meaning context else return .value x
  | .or a b => do
    let x ← (← a.meaning context).get
    if x.truthy then return .value x else b.meaning context

def Expr.value (context : Context) (e : Expr) : Except Failure Value := do
  (← e.meaning context).get

/-! ## Nodes -/

def loopValue (size position : Nat) : Value :=
  .object
    [("index", .int (position + 1)),
     ("index0", .int position),
     ("first", .bool (position == 0)),
     ("last", .bool (position + 1 == size)),
     ("length", .int size)]

def loopContext (target : String) (withLoop : Bool) (size position : Nat) (item : Value)
    (context : Context) : Context :=
  let inner := (target, item) :: context
  if withLoop then ("loop", loopValue size position) :: inner else inner

mutual

/-- The text of a node. -/
def renderNode (includes : Context → String → Except Failure (List Char)) (context : Context) :
    Node → Except Failure (List Char)
  | .data text => return text
  | .output e => do return (← (← e.value context).displayed).toList
  | .branch test yes no => do
    if (← test.value context).truthy then renderNodes includes context yes
    else renderNodes includes context no
  | .loop target source body otherwise => do
    let items ← (← source.value context).iterate
    if items.isEmpty then renderNodes includes context otherwise
    else do
      let texts ← items.zipIdx.mapM fun (item, position) =>
        renderNodes includes
          (loopContext target (anyMentions "loop" body) items.length position item context) body
      return texts.flatten
  | .inclusion template => includes context template

def renderNodes (includes : Context → String → Except Failure (List Char)) (context : Context) :
    List Node → Except Failure (List Char)
  | [] => return []
  | n :: rest => do
    let text ← renderNode includes context n
    return text ++ (← renderNodes includes context rest)

end

/-! ## Templates -/

abbrev Templates := List (String × String)

/-- The most templates that may be open at a time. -/
def maxDepth : Nat := 200

/-- The text of a template, with at most `depth` templates open at a time. A template is read when it
is needed. -/
def renderTemplate (templates : Templates) : Nat → Context → String → Except Failure (List Char)
  | 0, _, _ => .error (.defect .endlessInclusion)
  | depth + 1, context, template =>
    match templates.lookup template with
    | none => .error (.usage (.template (.notFound template)))
    | some source =>
      match Node.ofSource source with
      | .error reason => .error (.usage (.template (.malformed reason)))
      | .ok nodes => renderNodes (renderTemplate templates depth) context nodes

def className : String := "class"

def methodName : String := "method"

def templatesOf (source : String) (methodSource : Option String) : Templates :=
  (className, source) :: (methodSource.map fun s => (methodName, s)).toList

/-- The names that the form of a view binds, with further ones put over them. -/
def contextOf (form : Value) (extra : Entries) : Context :=
  (Entries.overlay (form.entries?.getD []) extra).filterMap fun (k, v) =>
    (Value.scalar k).text?.map fun name => (name, v)

end Template

/-- The text of a view in a template that may include another one for methods. -/
def renderView (view : View) (source : String) (methodSource : Option String)
    (extra : Entries := []) : Except Failure String := do
  if Text.isBlankText source then throw (.usage .noTemplate)
  let form ← view.handed
  let text ← Template.renderTemplate (Template.templatesOf source methodSource) Template.maxDepth
    (Template.contextOf form extra) Template.className
  return String.ofList text

end ApiView
