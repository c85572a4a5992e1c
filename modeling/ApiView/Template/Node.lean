import ApiView.Template.Expression

/-!
# The structure of a template

Pieces are put together into a tree: a statement that opens a construct takes everything up to the
statement that closes it.

The statements are `if` with its `elif` and `else`, `for` over one name with its `else`, and `include` of
one quoted name. Raw text, assignments, macros, blocks and inheritance, loops with conditions or several
names, and inclusions with conditions are refused as malformed.

* `Node`: text, shown values, branches, loops and inclusions;
* `Statement`: what the words of a statement say;
* `Node.ofPieces`, `Node.ofSource`: the nodes of a row of pieces and of a whole template.
-/

namespace ApiView
namespace Template

/-- A part of a template. -/
inductive Node
  | data (text : List Char)
  | output (e : Expr)
  | branch (test : Expr) (yes no : List Node)
  | loop (target : String) (source : Expr) (body otherwise : List Node)
  | inclusion (template : String)
deriving Repr

mutual

def Node.mentions (word : String) : Node → Bool
  | .data _ | .inclusion _ => false
  | .output e => e.mentions word
  | .branch test yes no => test.mentions word || anyMentions word yes || anyMentions word no
  | .loop _ source body otherwise =>
    source.mentions word || anyMentions word body || anyMentions word otherwise

def anyMentions (word : String) : List Node → Bool
  | [] => false
  | n :: rest => n.mentions word || anyMentions word rest

end

/-! ## Statements -/

inductive Statement
  | ifTest (test : Expr)
  | elseIf (test : Expr)
  | otherwise
  | endIf
  | loop (target : String) (source : Expr)
  | endLoop
  | inclusion (template : String)
deriving DecidableEq, Repr

/-- Whether a loop may bind a name: not one that stands for a value, and not the one of the loop
itself. -/
def isTarget (word : String) : Bool :=
  (Expr.constant? word).isNone && word != "loop"

/-- What the words of a statement say. -/
def Statement.ofTokens : List Token → Reading Statement
  | .name "if" :: ts => do return .ifTest (← Expr.ofTokens ts)
  | .name "elif" :: ts => do return .elseIf (← Expr.ofTokens ts)
  | [.name "else"] => .ok .otherwise
  | [.name "endif"] => .ok .endIf
  | .name "for" :: .name target :: .name "in" :: ts =>
    if isTarget target then do return .loop target (← Expr.ofTokens ts)
    else .error "a loop cannot bind this name"
  | [.name "endfor"] => .ok .endLoop
  | .name "include" :: .text s :: ts =>
    match Expr.joinTexts s ts with
    | (template, []) => .ok (.inclusion template)
    | _ => .error "words after the name of a template"
  | _ => .error "an unknown statement"

/-! ## Trees -/

/-- A construct that is not closed yet, by the part of it that is being read. -/
inductive Opening
  | arm (earlier : List (Expr × List Node)) (test : Expr)
  | lastArm (earlier : List (Expr × List Node))
  | body (target : String) (source : Expr)
  | elseBody (target : String) (source : Expr) (body : List Node)

/-- A construct that is not closed yet, and the nodes in front of it. -/
structure Frame where
  opening : Opening
  before : List Node

def branches (arms : List (Expr × List Node)) (otherwise : List Node) : List Node :=
  arms.foldr (fun (test, yes) no => [.branch test yes no]) otherwise

/-- What a statement makes of the open constructs, the innermost first, and of the nodes read so far in
the innermost of them. -/
def Statement.apply (statement : Statement) (frames : List Frame) (done : List Node) :
    Reading (List Frame × List Node) :=
  match statement, frames with
  | .ifTest test, frames => .ok (⟨.arm [] test, done⟩ :: frames, [])
  | .elseIf next, ⟨.arm earlier test, before⟩ :: frames =>
    .ok (⟨.arm (earlier ++ [(test, done)]) next, before⟩ :: frames, [])
  | .otherwise, ⟨.arm earlier test, before⟩ :: frames =>
    .ok (⟨.lastArm (earlier ++ [(test, done)]), before⟩ :: frames, [])
  | .otherwise, ⟨.body target source, before⟩ :: frames =>
    .ok (⟨.elseBody target source done, before⟩ :: frames, [])
  | .endIf, ⟨.arm earlier test, before⟩ :: frames =>
    .ok (frames, before ++ branches (earlier ++ [(test, done)]) [])
  | .endIf, ⟨.lastArm earlier, before⟩ :: frames => .ok (frames, before ++ branches earlier done)
  | .loop target source, frames => .ok (⟨.body target source, done⟩ :: frames, [])
  | .endLoop, ⟨.body target source, before⟩ :: frames =>
    .ok (frames, before ++ [.loop target source done []])
  | .endLoop, ⟨.elseBody target source body, before⟩ :: frames =>
    .ok (frames, before ++ [.loop target source body done])
  | .inclusion template, frames => .ok (frames, done ++ [.inclusion template])
  | _, _ => .error "a statement out of place"

/-- The nodes of a row of pieces, inside the open constructs and after the nodes read so far. -/
def nodesAfter (frames : List Frame) (done : List Node) : List Piece → Reading (List Node)
  | [] => if frames.isEmpty then .ok done else .error "a statement is not closed"
  | .data text :: rest => nodesAfter frames (done ++ [.data text]) rest
  | .output tokens :: rest => do
    let e ← Expr.ofTokens tokens
    nodesAfter frames (done ++ [.output e]) rest
  | .statement tokens :: rest => do
    let statement ← Statement.ofTokens tokens
    let (frames, done) ← statement.apply frames done
    nodesAfter frames done rest

def Node.ofPieces (pieces : List Piece) : Reading (List Node) :=
  nodesAfter [] [] pieces

def Node.ofSource (source : String) : Reading (List Node) := do
  Node.ofPieces (← Piece.scan source.toList)

end Template
end ApiView
