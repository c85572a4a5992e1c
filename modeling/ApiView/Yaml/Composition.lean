import ApiView.Yaml.Node
import ApiView.Yaml.Token

/-!
# Putting nodes together

The tokens of a text are put together into a tree of nodes. A token is looked at only when it is
needed, so a fault after the last token counts only where nothing before it is wrong.

* `Composer`: the tokens left, and what is known of handles and anchors;
* `Composer.node`: the node at the start of the tokens;
* `Node.ofTokens`: the only node of a row of tokens, if there is one.
-/

namespace ApiView
namespace Yaml

/-! ## State -/

/-- The state of a reader of nodes: the tokens left, the fault after them if there is one, the handles
of tags, and the anchors so far; an anchor without a node is on a node that is still being read. -/
structure Composer where
  tokens : List Token
  ending : Option Fault := none
  handles : List (String × String)
  anchors : List (String × Option Node) := []

namespace Composer

def defaultHandles : List (String × String) :=
  [("!", "!"), ("!!", "tag:yaml.org,2002:")]

def next? (c : Composer) : Except Fault (Option Token) :=
  match c.tokens, c.ending with
  | t :: _, _ => .ok (some t)
  | [], none => .ok none
  | [], some fault => .error fault

def drop (c : Composer) : Composer :=
  { c with tokens := c.tokens.drop 1 }

def nextIs (c : Composer) (ts : List Token) : Except Fault Bool := do
  match ← c.next? with
  | some t => return ts.contains t
  | none => return false

/-! ## Properties -/

def tagName (c : Composer) (text : TagText) : Except Fault String :=
  match text.handle with
  | none => .ok text.suffix
  | some handle =>
    match c.handles.lookup handle with
    | some expansion => .ok (expansion ++ text.suffix)
    | none => malformed "found undefined tag handle"

def tag? (c : Composer) : Except Fault (Option TagText × Composer) := do
  match ← c.next? with
  | some (.tag text) => return (some text, c.drop)
  | _ => return (none, c)

def anchor? (c : Composer) : Except Fault (Option String × Composer) := do
  match ← c.next? with
  | some (.anchor name) => return (some name, c.drop)
  | _ => return (none, c)

/-- The anchor and the tag in front of a node, in either order. -/
def properties (c : Composer) : Except Fault (Option String × Option String × Composer) := do
  match ← c.anchor? with
  | (some name, c) =>
    let (text, c) ← c.tag?
    return (some name, ← text.mapM c.tagName, c)
  | (none, c) =>
    match ← c.tag? with
    | (some text, c) =>
      let (anchor, c) ← c.anchor?
      return (anchor, some (← c.tagName text), c)
    | (none, c) => return (none, none, c)

def tagOf (plain : Bool) : Option String → Tag
  | some "!" => .implicit
  | some name => .named name
  | none => if plain then .implicit else .quoted

/-! ## Anchors -/

/-- Begin a node with an anchor. -/
def beginAnchor (c : Composer) : Option String → Except Fault Composer
  | none => .ok c
  | some name =>
    if (c.anchors.lookup name).isSome then malformed "found duplicate anchor"
    else .ok { c with anchors := (name, none) :: c.anchors }

/-- Give an anchor its node. Nodes inside that mention it are complete from here on. -/
def endAnchor (c : Composer) (anchor : Option String) (n : Node) : Node × Composer :=
  match anchor with
  | none => (n, c)
  | some name =>
    let whole := n.closed name
    let anchors := c.anchors.map fun (other, m) => (other, m.map (Node.completed name whole))
    (whole.settled, { c with anchors := (name, some whole.settled) :: anchors })

def aliased (c : Composer) (name : String) : Except Fault (Node × Composer) :=
  match c.anchors.lookup name with
  | some (some n) => .ok (n, c)
  | some none => .ok (.pending name, c)
  | none => malformed "found undefined alias"

/-! ## Nodes -/

/-- Past the comma in front of every entry but the first. -/
def pastEntry (c : Composer) (first : Bool) (complaint : String) : Except Fault Composer := do
  if first then return c
  else if ← c.nextIs [.flowEntry] then return c.drop
  else malformed complaint

def absent (anchor tag : Option String) (c : Composer) : Except Fault (Node × Composer) :=
  if anchor.isSome || tag.isSome then .ok (.scalar (tagOf true tag) 0 [], c)
  else malformed "expected the node content"

mutual

/-- A node. `block` allows blocks, `indentless` a sequence whose hyphens are not indented. An anchor
is known inside its node. -/
def node (block indentless : Bool) : Nat → Composer → Except Fault (Node × Composer)
  | 0, _ => malformed "nested too deeply"
  | fuel + 1, c => do
    match ← c.next? with
    | some (.alias name) => c.drop.aliased name
    | _ =>
      let (anchor, tag, c) ← c.properties
      -- A fault that the tokens end in comes before a repeated anchor.
      let _ ← c.next?
      let c ← c.beginAnchor anchor
      let (n, c) ← content block indentless anchor tag fuel c
      return c.endAnchor anchor n

/-- What follows the anchor and the tag of a node. -/
def content (block indentless : Bool) (anchor tag : Option String) :
    Nat → Composer → Except Fault (Node × Composer)
  | 0, _ => malformed "nested too deeply"
  | fuel + 1, c => do
    let place := c.tokens.length
    match ← c.next? with
    | some .blockEntry =>
      if indentless then
        let (items, c) ← indentlessItems fuel c
        return (.sequence (tagOf true tag) place items, c)
      else absent anchor tag c
    | some (.scalar plain text) =>
      return (.scalar (tagOf plain tag) place text, c.drop)
    | some .flowSequenceStart =>
      let (items, c) ← flowItems true fuel c.drop
      return (.sequence (tagOf true tag) place items, c)
    | some .flowMappingStart =>
      let (pairs, c) ← flowPairs true fuel c.drop
      return (.mapping (tagOf true tag) place pairs, c)
    | some .blockSequenceStart =>
      if block then
        let (items, c) ← blockItems fuel c.drop
        return (.sequence (tagOf true tag) place items, c)
      else absent anchor tag c
    | some .blockMappingStart =>
      if block then
        let (pairs, c) ← blockPairs fuel c.drop
        return (.mapping (tagOf true tag) place pairs, c)
      else absent anchor tag c
    | _ => absent anchor tag c

/-- A node, or an empty one if one of the given tokens follows. -/
def nodeUnless (stops : List Token) (block indentless : Bool) :
    Nat → Composer → Except Fault (Node × Composer)
  | 0, _ => malformed "nested too deeply"
  | fuel + 1, c => do
    if ← c.nextIs stops then return (.empty, c) else node block indentless fuel c

/-- A node after a colon, or an empty one if there is no colon or one of the given tokens follows. -/
def valueUnless (stops : List Token) (block indentless : Bool) :
    Nat → Composer → Except Fault (Node × Composer)
  | 0, _ => malformed "nested too deeply"
  | fuel + 1, c => do
    if ← c.nextIs [.value] then nodeUnless stops block indentless fuel c.drop
    else return (.empty, c)

/-- The entries of a block sequence, and its end. -/
def blockItems : Nat → Composer → Except Fault (List Node × Composer)
  | 0, _ => malformed "nested too deeply"
  | fuel + 1, c => do
    match ← c.next? with
    | some .blockEntry =>
      let (n, c) ← nodeUnless [.blockEntry, .blockEnd] true false fuel c.drop
      let (more, c) ← blockItems fuel c
      return (n :: more, c)
    | some .blockEnd => return ([], c.drop)
    | _ => malformed "expected <block end>"

def indentlessItems : Nat → Composer → Except Fault (List Node × Composer)
  | 0, _ => malformed "nested too deeply"
  | fuel + 1, c => do
    match ← c.next? with
    | some .blockEntry =>
      let (n, c) ← nodeUnless [.blockEntry, .key, .value, .blockEnd] true false fuel c.drop
      let (more, c) ← indentlessItems fuel c
      return (n :: more, c)
    | _ => return ([], c)

/-- The pairs of a block mapping, and its end. -/
def blockPairs : Nat → Composer → Except Fault (List (Node × Node) × Composer)
  | 0, _ => malformed "nested too deeply"
  | fuel + 1, c => do
    match ← c.next? with
    | some .key =>
      let (k, c) ← nodeUnless [.key, .value, .blockEnd] true true fuel c.drop
      let (v, c) ← valueUnless [.key, .value, .blockEnd] true true fuel c
      let (more, c) ← blockPairs fuel c
      return ((k, v) :: more, c)
    | some .blockEnd => return ([], c.drop)
    | _ => malformed "expected <block end>"

/-- The entries of a bracketed sequence, and its bracket. -/
def flowItems (first : Bool) : Nat → Composer → Except Fault (List Node × Composer)
  | 0, _ => malformed "nested too deeply"
  | fuel + 1, c => do
    if ← c.nextIs [.flowSequenceEnd] then return ([], c.drop)
    let c ← c.pastEntry first "expected ',' or ']'"
    let place := c.tokens.length
    match ← c.next? with
    | some .flowSequenceEnd => return ([], c.drop)
    | some .key =>
      let (k, c) ← nodeUnless [.value, .flowEntry, .flowSequenceEnd] false false fuel c.drop
      let (v, c) ← valueUnless [.flowEntry, .flowSequenceEnd] false false fuel c
      let (more, c) ← flowItems false fuel c
      return (.mapping .implicit place [(k, v)] :: more, c)
    | _ =>
      let (n, c) ← node false false fuel c
      let (more, c) ← flowItems false fuel c
      return (n :: more, c)

/-- The pairs of a braced mapping, and its brace. -/
def flowPairs (first : Bool) : Nat → Composer → Except Fault (List (Node × Node) × Composer)
  | 0, _ => malformed "nested too deeply"
  | fuel + 1, c => do
    if ← c.nextIs [.flowMappingEnd] then return ([], c.drop)
    let c ← c.pastEntry first "expected ',' or a closing brace"
    match ← c.next? with
    | some .flowMappingEnd => return ([], c.drop)
    | some .key =>
      let (k, c) ← nodeUnless [.value, .flowEntry, .flowMappingEnd] false false fuel c.drop
      let (v, c) ← valueUnless [.flowEntry, .flowMappingEnd] false false fuel c
      let (more, c) ← flowPairs false fuel c
      return ((k, v) :: more, c)
    | _ =>
      let (k, c) ← node false false fuel c
      let (more, c) ← flowPairs false fuel c
      return ((k, .empty) :: more, c)

end

/-! ## Documents -/

/-- The directives in front of a document. -/
def directives (versionSeen : Bool) (c : Composer) :
    List Token → Except Fault Composer
  | .yamlVersion isOne :: rest =>
    if versionSeen then malformed "found duplicate YAML directive"
    else if !isOne then malformed "found incompatible YAML document"
    else directives true c rest
  | .tagHandle handle expansion :: rest =>
    if (c.handles.lookup handle).isSome then malformed "duplicate tag handle"
    else directives versionSeen { c with handles := (handle, expansion) :: c.handles } rest
  | .directive :: rest => directives versionSeen c rest
  | tokens => .ok { c with tokens := tokens }

def start (c : Composer) : Except Fault Composer := do
  let c ← directives false { c with handles := [] } c.tokens
  if ← c.nextIs [.documentStart] then return { c.drop with handles := c.handles ++ defaultHandles }
  else malformed "expected '<document start>'"

def dropEnds : List Token → List Token
  | .documentEnd :: rest => dropEnds rest
  | tokens => tokens

/-- The content of a document, which may be left out after a mark. -/
def documentContent (marked : Bool) (c : Composer) : Except Fault (Node × Composer) := do
  let next ← c.next?
  if marked && next.all fun t => t.isStart || t == .documentEnd then return (.empty, c)
  else node true false (8 * c.tokens.length + 8) c

def finish (c : Composer) : Except Fault Unit := do
  let _ ← c.next?
  let c := { c with tokens := dropEnds c.tokens }
  if (← c.next?).isNone then return ()
  else
    let _ ← c.start
    malformed "expected a single document in the stream"

/-- The only document of a row of tokens, or nothing if there is none. -/
def document (c : Composer) : Except Fault (Option Node) := do
  match ← c.next? with
  | none => return none
  | some t =>
    let marked := t.isStart
    let c ← if marked then c.start else pure c
    let (n, c) ← documentContent marked c
    c.finish
    return some n

end Composer

/-- The only node of a row of tokens, if there is one. -/
def Node.ofTokens (tokens : List Token) (ending : Option Fault := none) :
    Except Fault (Option Node) :=
  Composer.document { tokens := tokens, ending := ending, handles := Composer.defaultHandles }

end Yaml
end ApiView
