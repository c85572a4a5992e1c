import ApiView.Text.Hex
import ApiView.Yaml.Cursor

/-!
# The text of YAML scalars

Scalars are plain, quoted, or blocks of lines. Each reader starts at the scalar and gives its text
with line breaks folded, and the cursor after it.

* `Quoted.read`: a single- or double-quoted scalar;
* `Plain.read`: a plain scalar;
* `Block.read`: a literal or folded block.
-/

namespace ApiView
namespace Yaml

/-! ## Quoted scalars -/

namespace Quoted

def escapes : List (Char × Char) :=
  [('0', '\x00'), ('a', '\x07'), ('b', '\x08'), ('t', '\t'), ('\t', '\t'), ('n', '\n'),
   ('v', '\x0b'), ('f', '\x0c'), ('r', '\r'), ('e', '\x1b'), (' ', ' '), ('"', '"'),
   ('\\', '\\'), ('/', '/'), ('N', '\x85'), ('_', '\xa0'), ('L', '\u2028'), ('P', '\u2029')]

def escapeWidth? (c : Char) : Option Nat :=
  if c == 'x' then some 2 else if c == 'u' then some 4 else if c == 'U' then some 8 else none

/-- The letter with a code, which may be a half of a pair. A code beyond all characters is a bad number,
and one that no machine integer holds is too large. -/
def letterOfCode (n : Nat) : Except Fault (List Char) :=
  if 0x7FFFFFFF < n then .error (.defect .numberTooLarge)
  else if 0x10FFFF < n then .error (.defect .badNumber)
  else .ok (Text.ofCode n)

/-- Line breaks after the first one inside quotes. Indentation is dropped. -/
def breaks : Nat → Cursor → Except Fault (List Char × Cursor)
  | 0, _ => malformed "scalar too long"
  | fuel + 1, c =>
    if c.atDocumentMark then malformed "found unexpected document separator"
    else
      let c := c.skip fun x => x == ' ' || x == '\t'
      match c.lineBreak with
      | ([], c) => .ok ([], c)
      | (br, c) => do
        let (more, c) ← breaks fuel c
        return (br ++ more, c)

/-- Blanks inside quotes: a line break among them is folded into a space, further ones are kept. -/
def spaces (c : Cursor) : Except Fault (List Char × Cursor) :=
  let (blanks, c) := c.span fun x => x == ' ' || x == '\t'
  if c.peek == endMark then malformed "found unexpected end of stream"
  else
    match c.lineBreak with
    | ([], c) => .ok (blanks, c)
    | (br, c) => do
      let (more, c) ← breaks (c.rest.length + 1) c
      let first := if br != ['\n'] then br else if more.isEmpty then [' '] else []
      return (first ++ more, c)

/-- An escape, from the character after the backslash. -/
def escape (c : Cursor) : Except Fault (List Char × Cursor) :=
  let x := c.peek
  match escapes.lookup x, escapeWidth? x with
  | some y, _ => .ok ([y], c.advance)
  | none, some width =>
    let c := c.advance
    let digits := c.rest.take width
    if digits.length < width then malformed "expected hexadecimal digits"
    else
      match Text.hexNumber? digits with
      | none => malformed "expected hexadecimal digits"
      | some n => do
        let letter ← letterOfCode n
        return (letter, c.advanceBy width)
  | none, none =>
    if isBreak x then
      let (_, c) := c.lineBreak
      breaks (c.rest.length + 1) c
    else malformed "found unknown escape character"

/-- The text up to the next blank or the closing quote. -/
def nonSpaces (double : Bool) : Nat → Cursor → Except Fault (List Char × Cursor)
  | 0, _ => malformed "scalar too long"
  | fuel + 1, c => do
    let (run, c) := c.span fun x => !(isGap x || x == '\'' || x == '"' || x == '\\')
    let x := c.peek
    if !double && x == '\'' && c.peek 1 == '\'' then
      let (more, c) ← nonSpaces double fuel (c.advanceBy 2)
      return (run ++ '\'' :: more, c)
    else if (double && x == '\'') || (!double && (x == '"' || x == '\\')) then
      let (more, c) ← nonSpaces double fuel c.advance
      return (run ++ x :: more, c)
    else if double && x == '\\' then
      let (escaped, c) ← escape c.advance
      let (more, c) ← nonSpaces double fuel c
      return (run ++ escaped ++ more, c)
    else return (run, c)

/-- Blanks and text in turns, up to the closing quote. -/
def rest (double : Bool) : Nat → Cursor → Except Fault (List Char × Cursor)
  | 0, _ => malformed "scalar too long"
  | fuel + 1, c =>
    if c.peek == (if double then '"' else '\'') then .ok ([], c.advance)
    else do
      let (blanks, c) ← spaces c
      let (run, c) ← nonSpaces double (c.rest.length + 1) c
      let (more, c) ← rest double fuel c
      return (blanks ++ run ++ more, c)

def read (double : Bool) (c : Cursor) : Except Fault (List Char × Cursor) := do
  let c := c.advance
  let (run, c) ← nonSpaces double (c.rest.length + 1) c
  let (more, c) ← rest double (c.rest.length + 1) c
  return (run ++ more, c)

end Quoted

/-! ## Plain scalars -/

namespace Plain

/-- Whether a plain scalar ends before this character. -/
def stops (flow : Bool) (x next : Char) : Bool :=
  isGap x ||
    (x == ':' && (isGap next || (flow && [',', '[', ']', '\x7b', '\x7d'].contains next))) ||
    (flow && [',', '?', '[', ']', '\x7b', '\x7d'].contains x)

/-- How many characters a plain scalar goes on for without a blank. -/
def runLength (flow : Bool) : List Char → Nat
  | [] => 0
  | x :: rest => if stops flow x ((rest.head?).getD endMark) then 0 else runLength flow rest + 1

/-- Line breaks after the first one between two parts of a plain scalar; none if a document mark
ends it. -/
def breaks : Nat → Cursor → Option (List Char) × Cursor
  | 0, c => (none, c)
  | fuel + 1, c =>
    if c.peek == ' ' then breaks fuel c.advance
    else
      match c.lineBreak with
      | ([], c) => (some [], c)
      | (br, c) =>
        if c.atDocumentMark then (none, c)
        else
          match breaks fuel c with
          | (some more, c) => (some (br ++ more), c)
          | (none, c) => (none, c)

/-- What is between two parts of a plain scalar, and whether a line was broken. Nothing between them
means that the scalar is over. -/
def spaces (c : Cursor) : List Char × Bool × Cursor :=
  let (blanks, c) := c.span (· == ' ')
  match c.lineBreak with
  | ([], c) => (blanks, false, c)
  | (br, c) =>
    if c.atDocumentMark then ([], true, c)
    else
      match breaks (c.rest.length + 1) c with
      | (none, c) => ([], true, c)
      | (some more, c) =>
        ((if br != ['\n'] then br else if more.isEmpty then [' '] else []) ++ more, true, c)

/-- The parts of a plain scalar, the blanks before the first one given. -/
def parts (flow : Bool) (indent : Int) (blanks : List Char) (broken : Bool) :
    Nat → Cursor → List Char × Bool × Cursor
  | 0, c => ([], broken, c)
  | fuel + 1, c =>
    if c.peek == '#' then ([], broken, c)
    else
      let n := runLength flow c.rest
      if n == 0 then ([], broken, c)
      else
        let run := c.rest.take n
        let (between, broken, c) := spaces (c.advanceBy n)
        if between.isEmpty || c.peek == '#' || (!flow && (c.column : Int) < indent) then
          (blanks ++ run, broken, c)
        else
          let (more, broken, c) := parts flow indent between broken fuel c
          (blanks ++ run ++ more, broken, c)

/-- A plain scalar in a block indented by `indent`, and whether a line was broken after its last
part. -/
def read (flow : Bool) (indent : Int) (c : Cursor) : List Char × Bool × Cursor :=
  parts flow (indent + 1) [] false (c.rest.length + 1) c

end Plain

/-! ## Blocks -/

namespace Block

/-- What becomes of the line breaks at the end of a block. -/
inductive Chomping
  | clip
  | strip
  | keep
deriving DecidableEq, Repr

def chomping? (x : Char) : Option Chomping :=
  if x == '+' then some .keep else if x == '-' then some .strip else none

/-- What the header of a block says about its indentation. -/
def increment? (x : Char) : Option Nat :=
  if '0' ≤ x && x ≤ '9' then some (x.toNat - 48) else none

/-- The two parts of a block's header, in either order. -/
def header (c : Cursor) : Except Fault (Chomping × Option Nat × Cursor) := do
  let (chomping, increment, c) := match chomping? c.peek, increment? c.peek with
    | some chomping, _ =>
      match increment? (c.peek 1) with
      | some n => (chomping, some n, c.advanceBy 2)
      | none => (chomping, none, c.advance)
    | none, some n =>
      match chomping? (c.peek 1) with
      | some chomping => (chomping, some n, c.advanceBy 2)
      | none => (.clip, some n, c.advance)
    | none, none => (.clip, none, c)
  if increment == some 0 then malformed "expected indentation indicator in the range 1-9"
  else if !isSpaceOrEnd c.peek then malformed "expected chomping or indentation indicators"
  else return (chomping, increment, c)

def headerLine (c : Cursor) : Except Fault Cursor :=
  let c := (c.skip (· == ' ')).skipComment
  if isBreakOrEnd c.peek then .ok c.lineBreak.2
  else malformed "expected a comment or a line break"

/-- Empty lines before a block, and the deepest indentation seen. -/
def indentation (deepest : Nat) : Nat → Cursor → List Char × Nat × Cursor
  | 0, c => ([], deepest, c)
  | fuel + 1, c =>
    if c.peek == ' ' then
      let c := c.advance
      indentation (max deepest c.column) fuel c
    else
      match c.lineBreak with
      | ([], c) => ([], deepest, c)
      | (br, c) =>
        let (more, deepest, c) := indentation deepest fuel c
        (br ++ more, deepest, c)

def skipIndent (indent : Nat) : Nat → Cursor → Cursor
  | 0, c => c
  | fuel + 1, c =>
    if c.column < indent && c.peek == ' ' then skipIndent indent fuel c.advance else c

def breaks (indent : Nat) : Nat → Cursor → List Char × Cursor
  | 0, c => ([], c)
  | fuel + 1, c =>
    let c := skipIndent indent indent c
    match c.lineBreak with
    | ([], c) => ([], c)
    | (br, c) =>
      let (more, c) := breaks indent fuel c
      (br ++ more, c)

/-- The lines of a block, `empty` being the empty lines before the next one. Gives the text, the last
line break and the empty lines after it. -/
def lines (folded : Bool) (indent : Nat) (empty : List Char) :
    Nat → Cursor → List Char × List Char × List Char × Cursor
  | 0, c => ([], [], empty, c)
  | fuel + 1, c =>
    if c.column != indent || c.peek == endMark then ([], [], empty, c)
    else
      let isText (x : Char) : Bool := x != ' ' && x != '\t'
      let startsWithText := isText c.peek
      let (line, c) := c.span (!isBreakOrEnd ·)
      let (br, c) := c.lineBreak
      let (between, c) := breaks indent (c.rest.length + 1) c
      if c.column == indent && c.peek != endMark then
        let joint :=
          if folded && br == ['\n'] && startsWithText && isText c.peek then
            if between.isEmpty then [' '] else []
          else br
        let (more, last, after, c) := lines folded indent between fuel c
        (empty ++ line ++ joint ++ more, last, after, c)
      else (empty ++ line, br, between, c)

/-- A block, from its indicator, inside a block indented by `indent`. -/
def read (folded : Bool) (indent : Int) (c : Cursor) : Except Fault (List Char × Cursor) := do
  let (chomping, increment, c) ← header c.advance
  let c ← headerLine c
  let least := max 1 (indent + 1).toNat
  let (depth, empty, c) := match increment with
    | none =>
      let (empty, deepest, c) := indentation 0 (c.rest.length + 1) c
      (max least deepest, empty, c)
    | some n =>
      let depth := least + n - 1
      let (empty, c) := breaks depth (c.rest.length + 1) c
      (depth, empty, c)
  let (text, last, after, c) := lines folded depth empty (c.rest.length + 1) c
  let tail := match chomping with
    | .strip => []
    | .clip => last
    | .keep => last ++ after
  return (text ++ tail, c)

end Block
end Yaml
end ApiView
