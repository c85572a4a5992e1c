import ApiView.Failure
import ApiView.Text.Halves

/-!
# Positions in a YAML text

A cursor is what is left of a text together with the place that was reached. The end of a text reads
as the null character, which no YAML text holds.

* `isBreak`, `isBreakOrEnd`, `isGap`: line breaks, blanks and the end;
* `Cursor.peek`, `Cursor.advance`, `Cursor.span`: looking and moving;
* `Cursor.lineBreak`: a line break in its normal form;
* `Cursor.atDocumentMark`: the marks `---` and `...`;
* `Fault`: why a YAML text has no value.
-/

namespace ApiView
namespace Yaml

/-- Why a YAML text has no value: it is malformed, or a scalar in it names nothing. -/
inductive Fault
  | malformed (reason : String)
  | defect (defect : Defect)
deriving DecidableEq, Repr

def malformed {α : Type} (reason : String) : Except Fault α :=
  .error (.malformed reason)

/-! ## Characters -/

def endMark : Char := '\x00'

def isBreak (c : Char) : Bool :=
  c == '\n' || c == '\r' || c == '\x85' || c == '\u2028' || c == '\u2029'

def isBreakOrEnd (c : Char) : Bool :=
  c == endMark || isBreak c

def isSpaceOrEnd (c : Char) : Bool :=
  c == ' ' || isBreakOrEnd c

/-- Blanks, line breaks and the end: what must follow an indicator. -/
def isGap (c : Char) : Bool :=
  c == '\t' || isSpaceOrEnd c

def isAllowed (n : Nat) : Bool :=
  n == 0x09 || n == 0x0A || n == 0x0D || n == 0x85 || (0x20 ≤ n && n ≤ 0x7E) ||
    (0xA0 ≤ n && n ≤ 0xD7FF) || (0xE000 ≤ n && n ≤ 0xFFFD) || 0x10000 ≤ n

/-! ## Cursors -/

/-- What is left of a text, and the place reached. -/
structure Cursor where
  rest : List Char
  index : Nat
  line : Nat
  column : Nat

namespace Cursor

def start (text : List Char) : Cursor :=
  ⟨text, 0, 0, 0⟩

def peek (c : Cursor) (n : Nat := 0) : Char :=
  (c.rest[n]?).getD endMark

def ahead (c : Cursor) : List Char :=
  c.rest.take 3

def endsLine (x : Char) (rest : List Char) : Bool :=
  x == '\n' || x == '\x85' || x == '\u2028' || x == '\u2029' || (x == '\r' && rest.head? != some '\n')

def advance (c : Cursor) : Cursor :=
  match c.rest with
  | [] => c
  | x :: rest =>
    if endsLine x rest then ⟨rest, c.index + 1, c.line + 1, 0⟩
    else ⟨rest, c.index + 1, c.line, if x == '\ufeff' then c.column else c.column + 1⟩

def advanceBy (c : Cursor) : Nat → Cursor
  | 0 => c
  | n + 1 => c.advance.advanceBy n

/-- The characters that satisfy a predicate from here on, and the cursor after them. -/
def span (c : Cursor) (p : Char → Bool) : List Char × Cursor :=
  let taken := c.rest.takeWhile p
  (taken, c.advanceBy taken.length)

def skip (c : Cursor) (p : Char → Bool) : Cursor :=
  (c.span p).2

/-- A line break in its normal form, if there is one here, and the cursor after it. -/
def lineBreak (c : Cursor) : List Char × Cursor :=
  match c.rest with
  | '\r' :: '\n' :: _ => (['\n'], c.advanceBy 2)
  | x :: _ =>
    if x == '\n' || x == '\r' || x == '\x85' then (['\n'], c.advance)
    else if x == '\u2028' || x == '\u2029' then ([x], c.advance)
    else ([], c)
  | [] => ([], c)

def atDocumentMark (c : Cursor) : Bool :=
  (c.ahead == ['-', '-', '-'] || c.ahead == ['.', '.', '.']) && isGap (c.peek 3)

/-- The rest of a line that holds nothing more than a comment, and the cursor at its break. -/
def skipComment (c : Cursor) : Cursor :=
  if c.peek == '#' then c.skip (!isBreakOrEnd ·) else c

end Cursor
end Yaml
end ApiView
