import ApiView.Json.Reader
import ApiView.Text.Runs
import ApiView.Text.Utf8
import ApiView.Yaml.ScalarText

/-!
# YAML tokens

A text is cut into tokens. Indentation is turned into tokens that open and close blocks; whether a
scalar is a key is known only when a colon follows it, and then the tokens for that are put in front
of it.

* `Token`: the tokens;
* `Scanner`: the tokens so far with the state of indentation and of possible keys;
* `Scanner.step`: the next token;
* `Token.scan`: the tokens of a text, up to the first fault.
-/

namespace ApiView
namespace Yaml

/-- A tag as it is written: a handle, if there is one, and a suffix. -/
structure TagText where
  handle : Option String
  suffix : String
deriving DecidableEq, Repr

/-- A token of a YAML text. -/
inductive Token
  | yamlVersion (isOne : Bool)
  | tagHandle (handle expansion : String)
  | directive
  | documentStart
  | documentEnd
  | blockSequenceStart
  | blockMappingStart
  | blockEnd
  | flowSequenceStart
  | flowSequenceEnd
  | flowMappingStart
  | flowMappingEnd
  | blockEntry
  | flowEntry
  | key
  | value
  | alias (name : String)
  | anchor (name : String)
  | tag (text : TagText)
  | scalar (plain : Bool) (text : List Char)
deriving DecidableEq, Repr

def Token.isStart : Token → Bool
  | .yamlVersion _ | .tagHandle _ _ | .directive | .documentStart => true
  | _ => false

/-! ## State -/

/-- A token that may turn out to be a key: its number, and where it stands. A required one must. -/
structure PossibleKey where
  number : Nat
  required : Bool
  index : Nat
  line : Nat
  column : Nat

/-- The state of a scan. Tokens are kept latest first; possible keys go by the depth of brackets. -/
structure Scanner where
  cursor : Cursor
  tokens : List Token := []
  depth : Nat := 0
  indent : Int := -1
  indents : List Int := []
  keyAllowed : Bool := true
  possibleKeys : List (Nat × PossibleKey) := []

namespace Scanner

def inFlow (s : Scanner) : Bool :=
  s.depth != 0

def push (s : Scanner) (t : Token) : Scanner :=
  { s with tokens := t :: s.tokens }

def insertAt (s : Scanner) (number : Nat) (t : Token) : Scanner :=
  let later := s.tokens.length - number
  { s with tokens := s.tokens.take later ++ t :: s.tokens.drop later }

def pushOver (s : Scanner) (t : Token) (length : Nat) : Scanner :=
  { s.push t with cursor := s.cursor.advanceBy length }

/-! ## Keys -/

/-- Whether a possible key is too far back to be one. -/
def isStale (s : Scanner) (k : PossibleKey) : Bool :=
  k.line != s.cursor.line || k.index + 1024 < s.cursor.index

def dropStale (s : Scanner) : Except Fault Scanner :=
  if s.possibleKeys.any fun (_, k) => s.isStale k && k.required then
    malformed "could not find expected ':'"
  else .ok { s with possibleKeys := s.possibleKeys.filter fun (_, k) => !s.isStale k }

def dropKey (s : Scanner) : Except Fault Scanner :=
  match s.possibleKeys.lookup s.depth with
  | some k =>
    if k.required then malformed "could not find expected ':'"
    else .ok { s with possibleKeys := s.possibleKeys.filter fun (d, _) => d != s.depth }
  | none => .ok s

/-- Remember that the next token may be a key. -/
def saveKey (s : Scanner) : Except Fault Scanner :=
  if s.keyAllowed then do
    let s ← s.dropKey
    let k : PossibleKey :=
      { number := s.tokens.length
        required := !s.inFlow && s.indent == s.cursor.column
        index := s.cursor.index
        line := s.cursor.line
        column := s.cursor.column }
    return { s with possibleKeys := (s.depth, k) :: s.possibleKeys }
  else .ok s

/-! ## Indentation -/

def closeBlocks (column : Int) (s : Scanner) : List Int → Scanner
  | [] => s
  | outer :: indents =>
    if column < s.indent then
      closeBlocks column { s.push .blockEnd with indent := outer, indents := indents } indents
    else s

/-- Close the blocks that end at a column; between brackets indentation does not count. -/
def unwind (s : Scanner) (column : Int) : Scanner :=
  if s.inFlow then s else s.closeBlocks column s.indents

/-- Open a block at a column, if it is deeper than the current one. -/
def openBlock (s : Scanner) (column : Nat) : Bool × Scanner :=
  if s.indent < column then
    (true, { s with indents := s.indent :: s.indents, indent := column })
  else (false, s)

/-! ## Blanks -/

/-- Skip blanks, comments and line breaks. A line break outside of brackets makes a key possible. -/
def skipBlanks (s : Scanner) : Nat → Scanner
  | 0 => s
  | fuel + 1 =>
    let c := (s.cursor.skip (· == ' ')).skipComment
    match c.lineBreak with
    | ([], c) => { s with cursor := c }
    | (_, c) =>
      ({ s with cursor := c, keyAllowed := s.keyAllowed || !s.inFlow }).skipBlanks fuel

/-- Skip to the next token, a byte order mark at the start of the text included. -/
def skipToToken (s : Scanner) : Scanner :=
  let s := if s.cursor.index == 0 && s.cursor.peek == '\ufeff' then
      { s with cursor := s.cursor.advance }
    else s
  s.skipBlanks (s.cursor.rest.length + 1)

/-! ## Anchors and tags -/

def isNameChar (c : Char) : Bool :=
  ('0' ≤ c && c ≤ '9') || ('A' ≤ c && c ≤ 'Z') || ('a' ≤ c && c ≤ 'z') || c == '-' || c == '_'

def isTagChar (c : Char) : Bool :=
  isNameChar c || ";/?:@&=+$,.!~*'()[]%".toList.contains c

def anchorName (c : Cursor) : Except Fault (String × Cursor) :=
  let (name, c) := c.advance.span isNameChar
  if name.isEmpty then malformed "expected alphabetic or numeric character"
  else if !(isGap c.peek || "?:,]\x7d%@`".toList.contains c.peek) then
    malformed "expected alphabetic or numeric character"
  else .ok (String.ofList name, c)

/-- Bytes that are written as percent escapes. -/
def uriBytes : Nat → List Char → Except Fault (List UInt8 × List Char)
  | 0, cs => .ok ([], cs)
  | fuel + 1, '%' :: a :: b :: rest =>
    match Text.hexNumber? [a, b] with
    | some n => do
      let (bytes, rest) ← uriBytes fuel rest
      return (UInt8.ofNat n :: bytes, rest)
    | none => malformed "expected URI escape sequence"
  | _ + 1, '%' :: _ => malformed "expected URI escape sequence"
  | _ + 1, cs => .ok ([], cs)

def uriText : Nat → List Char → Except Fault (List Char)
  | 0, _ => .ok []
  | _ + 1, [] => .ok []
  | fuel + 1, '%' :: rest => do
    let (bytes, rest) ← uriBytes fuel ('%' :: rest)
    match Text.ofUtf8? bytes with
    | some s => return s.toList ++ (← uriText fuel rest)
    | none => malformed "invalid URI escape sequence"
  | fuel + 1, c :: rest => do return c :: (← uriText fuel rest)

def tagSuffix (c : Cursor) : Except Fault (String × Cursor) := do
  let (suffix, c) := c.span isTagChar
  if suffix.isEmpty then malformed "expected URI"
  else return (String.ofList (← uriText (suffix.length + 1) suffix), c)

/-- A handle of tags, from its exclamation mark; it ends with another one unless it is followed by a
space. -/
def tagHandle (c : Cursor) : Except Fault (String × Cursor) :=
  if c.peek != '!' then malformed "expected '!'"
  else if c.peek 1 == ' ' then .ok ("!", c.advance)
  else
    let (name, c) := c.advance.span isNameChar
    if c.peek != '!' then malformed "expected '!'"
    else .ok (String.ofList ('!' :: name ++ ['!']), c.advance)

def tagAfter (handle : String) (c : Cursor) : Except Fault (TagText × Cursor) := do
  let (suffix, c) ← tagSuffix c
  return (⟨some handle, suffix⟩, c)

/-- A tag, from its exclamation mark. -/
def tagText (c : Cursor) : Except Fault (TagText × Cursor) := do
  let next := c.peek 1
  let (tag, c) ←
    if next == '<' then do
      let (suffix, c) ← tagSuffix (c.advanceBy 2)
      if c.peek != '>' then malformed "expected '>'"
      else pure (({ handle := none, suffix := suffix } : TagText), c.advance)
    else if isGap next then pure (({ handle := none, suffix := "!" } : TagText), c.advance)
    else
      let word := (c.rest.drop 1).takeWhile (!isSpaceOrEnd ·)
      if word.contains '!' then do
        let (handle, after) ← tagHandle c
        tagAfter handle after
      else tagAfter "!" c.advance
  if isSpaceOrEnd c.peek then return (tag, c) else malformed "expected ' '"

/-! ## Directives -/

def versionNumber (c : Cursor) : Except Fault (Nat × Cursor) :=
  let (digits, c) := c.span Json.isDigit
  if digits.isEmpty then malformed "expected a digit"
  else if Json.maxDigits < digits.length then .error (.defect .badNumber)
  else .ok (Json.digitsValue digits, c)

/-- The version of a document, of which the first number counts. -/
def versionDirective (c : Cursor) : Except Fault (Token × Cursor) := do
  let (major, c) ← versionNumber (c.skip (· == ' '))
  if c.peek != '.' then malformed "expected a digit or '.'"
  else
    let (_, c) ← versionNumber c.advance
    if isSpaceOrEnd c.peek then return (.yamlVersion (major == 1), c)
    else malformed "expected a digit or ' '"

def tagDirective (c : Cursor) : Except Fault (Token × Cursor) := do
  let (handle, c) ← tagHandle (c.skip (· == ' '))
  if c.peek != ' ' then malformed "expected ' '"
  else
    let (expansion, c) ← tagSuffix (c.skip (· == ' '))
    if isSpaceOrEnd c.peek then return (.tagHandle handle expansion, c)
    else malformed "expected ' '"

/-- The rest of the line of a directive, which may hold a comment. -/
def directiveLine (c : Cursor) : Except Fault Cursor :=
  let c := (c.skip (· == ' ')).skipComment
  if isBreakOrEnd c.peek then .ok c.lineBreak.2
  else malformed "expected a comment or a line break"

/-- A directive, from its percent sign. -/
def directive (c : Cursor) : Except Fault (Token × Cursor) := do
  let (name, c) := c.advance.span isNameChar
  if name.isEmpty || !isSpaceOrEnd c.peek then malformed "expected a directive name"
  else
    let (t, c) ← match String.ofList name with
      | "YAML" => versionDirective c
      | "TAG" => tagDirective c
      | _ => pure (.directive, c.skip (!isBreakOrEnd ·))
    return (t, ← directiveLine c)

/-! ## Tokens -/

def finish (s : Scanner) : Except Fault Scanner := do
  let s ← (s.unwind (-1)).dropKey
  return { s with keyAllowed := false, possibleKeys := [] }

/-- A token at the left margin that closes every block. -/
def marginal (s : Scanner) (t : Token) (after : Cursor) : Except Fault Scanner := do
  let s ← (s.unwind (-1)).dropKey
  return { s.push t with keyAllowed := false, cursor := after }

def openFlow (s : Scanner) (t : Token) : Except Fault Scanner := do
  let s ← s.saveKey
  return { s.pushOver t 1 with depth := s.depth + 1, keyAllowed := true }

def closeFlow (s : Scanner) (t : Token) : Except Fault Scanner := do
  let s ← s.dropKey
  if s.depth == 0 then malformed "unexpected closing bracket"
  else return { s.pushOver t 1 with depth := s.depth - 1, keyAllowed := false }

def entryInFlow (s : Scanner) : Except Fault Scanner := do
  let s ← ({ s with keyAllowed := true }).dropKey
  return s.pushOver .flowEntry 1

/-- The block of an indicator that stands at the cursor, opened where the indicator begins one. -/
def enterBlock (s : Scanner) (t : Token) (complaint : String) : Except Fault Scanner :=
  if s.inFlow then .ok s
  else if !s.keyAllowed then malformed complaint
  else
    match s.openBlock s.cursor.column with
    | (true, s) => .ok (s.push t)
    | (false, s) => .ok s

def entryInBlock (s : Scanner) : Except Fault Scanner := do
  let s ← s.enterBlock .blockSequenceStart "sequence entries are not allowed here"
  let s ← ({ s with keyAllowed := true }).dropKey
  return s.pushOver .blockEntry 1

def explicitKey (s : Scanner) : Except Fault Scanner := do
  let s ← s.enterBlock .blockMappingStart "mapping keys are not allowed here"
  let s ← ({ s with keyAllowed := !s.inFlow }).dropKey
  return s.pushOver .key 1

/-- A colon. The possible key at this depth becomes a key. -/
def colon (s : Scanner) : Except Fault Scanner := do
  match s.possibleKeys.lookup s.depth with
  | some k =>
    let s := { s with possibleKeys := s.possibleKeys.filter fun (d, _) => d != s.depth }
    -- The tokens of the key are there already: its mark, and then its block, go in front of them.
    let s := s.insertAt k.number .key
    let s := if s.inFlow then s
      else
        match s.openBlock k.column with
        | (true, s) => s.insertAt k.number .blockMappingStart
        | (false, s) => s
    return { s.pushOver .value 1 with keyAllowed := false }
  | none =>
    let s ← s.enterBlock .blockMappingStart "mapping values are not allowed here"
    let s ← ({ s with keyAllowed := !s.inFlow }).dropKey
    return s.pushOver .value 1

/-- A token that may be a key, with the cursor after it. -/
def node (s : Scanner) (read : Cursor → Except Fault (Token × Cursor)) : Except Fault Scanner := do
  let s ← s.saveKey
  let (t, after) ← read s.cursor
  return { s.push t with keyAllowed := false, cursor := after }

def blockScalar (s : Scanner) (folded : Bool) : Except Fault Scanner := do
  let s ← ({ s with keyAllowed := true }).dropKey
  let (text, after) ← Block.read folded s.indent s.cursor
  return { s.push (.scalar false text) with cursor := after }

def quotedScalar (s : Scanner) (double : Bool) : Except Fault Scanner :=
  s.node fun c => do
    let (text, after) ← Quoted.read double c
    return (.scalar false text, after)

def plainScalar (s : Scanner) : Except Fault Scanner := do
  let s ← s.saveKey
  let (text, broken, after) := Plain.read s.inFlow s.indent s.cursor
  return { s.push (.scalar true text) with keyAllowed := broken, cursor := after }

/-- Whether a plain scalar begins here. -/
def beginsPlain (s : Scanner) : Bool :=
  let x := s.cursor.peek
  !(isGap x || "-?:,[]\x7b\x7d#&*!|>'\"%@`".toList.contains x) ||
    (!isGap (s.cursor.peek 1) && (x == '-' || (!s.inFlow && (x == '?' || x == ':'))))

/-- The next token, and the tokens that indentation adds to it. -/
def step (s : Scanner) : Except Fault Scanner := do
  let s ← s.skipToToken.dropStale
  let s := s.unwind s.cursor.column
  let c := s.cursor
  let x := c.peek
  let gapNext := isGap (c.peek 1)
  if x == endMark then s.finish
  else if x == '%' && c.column == 0 then do
    let (t, after) ← directive c
    s.marginal t after
  else if x == '-' && c.column == 0 && c.atDocumentMark then
    s.marginal .documentStart (c.advanceBy 3)
  else if x == '.' && c.column == 0 && c.atDocumentMark then
    s.marginal .documentEnd (c.advanceBy 3)
  else if x == '[' then s.openFlow .flowSequenceStart
  else if x == '\x7b' then s.openFlow .flowMappingStart
  else if x == ']' then s.closeFlow .flowSequenceEnd
  else if x == '\x7d' then s.closeFlow .flowMappingEnd
  else if x == ',' then s.entryInFlow
  else if x == '-' && gapNext then s.entryInBlock
  else if x == '?' && (s.inFlow || gapNext) then s.explicitKey
  else if x == ':' && (s.inFlow || gapNext) then s.colon
  else if x == '*' then
    s.node fun c => do
      let (name, after) ← anchorName c
      return (.alias name, after)
  else if x == '&' then
    s.node fun c => do
      let (name, after) ← anchorName c
      return (.anchor name, after)
  else if x == '!' then
    s.node fun c => do
      let (text, after) ← tagText c
      return (.tag text, after)
  else if x == '|' && !s.inFlow then s.blockScalar false
  else if x == '>' && !s.inFlow then s.blockScalar true
  else if x == '\'' then s.quotedScalar false
  else if x == '"' then s.quotedScalar true
  else if s.beginsPlain then s.plainScalar
  else malformed "found character that cannot start any token"

/-- The tokens that are settled: those in front of every token that may still turn out to be a key. -/
def settled (s : Scanner) : List Token :=
  let openKeys := s.possibleKeys.filter fun (_, k) => !s.isStale k
  s.tokens.reverse.take ((openKeys.map (·.2.number)).foldl min s.tokens.length)

/-- Step until the text is used up. A fault ends the tokens, of which the settled ones are left. -/
def run (s : Scanner) : Nat → List Token × Option Fault
  | 0 => (s.tokens.reverse, none)
  | fuel + 1 =>
    match s.step with
    | .error fault => (s.settled, some fault)
    | .ok next =>
      if next.cursor.rest.isEmpty then
        match next.finish with
        | .error fault => (next.settled, some fault)
        | .ok done => (done.tokens.reverse, none)
      else next.run fuel

end Scanner

/-- The tokens of a text, and the fault that ends them if there is one. -/
def Token.scan (text : List Char) : List Token × Option Fault :=
  if (Text.codes text).all isAllowed then
    Scanner.run { cursor := Cursor.start text } (text.length + 1)
  else ([], some (.malformed "special characters are not allowed"))

end Yaml
end ApiView
