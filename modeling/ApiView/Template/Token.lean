import ApiView.Json.Reader
import ApiView.Text.Alphabet
import ApiView.Text.Newlines
import ApiView.Text.Quoted

/-!
# Pieces of a template

A template is text with tags in it: `{{ ... }}` shows a value, `{% ... %}` is a
statement, and `{# ... #}` is a comment. The line of a statement or comment leaves nothing
behind: blanks in front of it on its line and the line break after it are dropped. A minus sign at
either end of a tag drops all blanks on that side, and a plus sign keeps them.

Of the template language this is what templates of views use: names, quoted texts and numbers, and the
marks of the expressions and statements in the next two modules. Any other character inside a tag is
refused as malformed, and so is everything that is built of such characters: operators of arithmetic and
comparison, and braces.

* `Token`, `Token.next?`: the words inside tags;
* `Piece`: text, or the words of a tag;
* `Piece.scan`: the pieces of a template.
-/

namespace ApiView
namespace Template

/-- The result of reading a part of a template, or what is wrong with it. -/
abbrev Reading (α : Type) := Except String α

/-! ## Words inside tags -/

inductive Token
  | name (s : String)
  | text (s : String)
  | number (s : Scalar)
  | mark (c : Char)
  | equals
deriving DecidableEq, Repr

/-- The characters of a quoted text up to the closing quote, escapes as written. -/
def untilQuote (quotes : Char) : List Char → Option (List Char × List Char)
  | [] => none
  | '\\' :: c :: rest => (untilQuote quotes rest).map fun (s, left) => ('\\' :: c :: s, left)
  | c :: rest =>
    if c == quotes then some ([], rest)
    else (untilQuote quotes rest).map fun (s, left) => (c :: s, left)

/-- The character that an escape of one letter stands for. -/
def escaped? (c : Char) : Option Char :=
  if c == '\\' || c == '\'' || c == '"' then some c
  else if c == 'n' then some '\n'
  else if c == 'r' then some '\r'
  else if c == 't' then some '\t'
  else if c == 'a' then some '\x07'
  else if c == 'b' then some '\x08'
  else if c == 'f' then some '\x0c'
  else if c == 'v' then some '\x0b'
  else none

/-- The letter that hexadecimal digits name, before the rest of a text. -/
def consCode (digits : List Char) (rest : Option (List Char)) : Option (List Char) := do
  let n ← Text.hexNumber? digits
  if n ≤ 0x10FFFF then return Text.ofCode n ++ (← rest) else none

def isOctal (c : Char) : Bool :=
  '0' ≤ c && c ≤ '7'

/-- The character that up to three digits in base 8 name, before the rest of a text. -/
def consOctal (digits : List Char) (rest : Option (List Char)) : Option (List Char) :=
  rest.map (Char.ofNat (digits.foldl (fun n c => n * 8 + (c.toNat - 48)) 0) :: ·)

/-- A text whose escapes are replaced by what they stand for. An escape that is none stays as it is;
one that is not complete has no meaning. -/
def unescape : List Char → Option (List Char)
  | [] => some []
  | '\\' :: '\n' :: rest => unescape rest
  | '\\' :: 'x' :: a :: b :: rest => consCode [a, b] (unescape rest)
  | '\\' :: 'u' :: a :: b :: c :: d :: rest => consCode [a, b, c, d] (unescape rest)
  | '\\' :: 'U' :: a :: b :: c :: d :: e :: f :: g :: h :: rest =>
    consCode [a, b, c, d, e, f, g, h] (unescape rest)
  | '\\' :: c :: rest =>
    match escaped? c with
    | some x => (unescape rest).map (x :: ·)
    | none =>
      if isOctal c then
        match rest with
        | d :: e :: left =>
          if !isOctal d then consOctal [c] (unescape (d :: e :: left))
          else if !isOctal e then consOctal [c, d] (unescape (e :: left))
          else consOctal [c, d, e] (unescape left)
        | [d] => if isOctal d then consOctal [c, d] (some []) else consOctal [c] (unescape [d])
        | [] => consOctal [c] (some [])
      else if c == 'x' || c == 'u' || c == 'U' || c == 'N' then none
      else (unescape rest).map fun s => '\\' :: c :: s
  | c :: rest => (unescape rest).map (c :: ·)

/-- What a quoted text stands for. Characters beyond ASCII are escapes of themselves. -/
def textOf? (cs : List Char) : Option String :=
  let escaped := (Text.codes cs).flatMap fun n => if n < 128 then [Char.ofNat n] else Text.codeEscape n
  (unescape escaped).map String.ofList

/-- The number at the start of a text that starts with a digit. It has no fraction after a point. -/
def readNumber (afterPoint : Bool) (cs : List Char) : Scalar × List Char :=
  let (whole, afterWhole) := cs.span Json.isDigit
  let (fraction, afterFraction) := Json.readFraction afterWhole
  let (exponent?, rest) := Json.readExponent afterFraction
  -- Behind a point a number is a position, so that a second point does not make it a double.
  if afterPoint || (fraction.isEmpty && exponent?.isNone) then
    match cs.span (· == '0') with
    | ([], _) => (.int (Json.digitsValue whole), afterWhole)
    | (_, rest) => (.int 0, rest)
  else
    (.float (Binary64.ofDecimal false (Json.digitsValue (whole ++ fraction))
      (exponent?.getD 0 - fraction.length)), rest)

def marks : List Char :=
  ['.', '[', ']', '(', ')', '|', ',', '-']

/-- The word at the start of a text that does not start with a blank. -/
def Token.next? (afterPoint : Bool) : List Char → Option (Token × List Char)
  | [] => none
  | '=' :: '=' :: rest => some (.equals, rest)
  | c :: rest =>
    if Json.isDigit c then
      let (n, left) := readNumber afterPoint (c :: rest)
      some (.number n, left)
    else if Text.isWordChar c && !Text.isDigit c then
      let (word, left) := (c :: rest).span Text.isWordChar
      some (.name (String.ofList word), left)
    else if c == '"' || c == '\'' then do
      let (written, left) ← untilQuote c rest
      return (.text (← textOf? written), left)
    else if marks.contains c then some (.mark c, rest)
    else none

/-! ## Tags -/

inductive Kind
  | output
  | statement
  | comment
deriving DecidableEq, Repr

/-- What a sign at the end of a tag does to the blanks beside it. -/
inductive Margin
  | usual
  | drop
  | keep
deriving DecidableEq, Repr

/-- The text up to the first tag, the kind of the tag, and what follows its opening. -/
def untilTag : List Char → List Char × Option (Kind × List Char)
  | [] => ([], none)
  | '\x7b' :: '\x7b' :: rest => ([], some (.output, rest))
  | '\x7b' :: '%' :: rest => ([], some (.statement, rest))
  | '\x7b' :: '#' :: rest => ([], some (.comment, rest))
  | c :: rest =>
    let (text, found) := untilTag rest
    (c :: text, found)

def takeMargin : List Char → Margin × List Char
  | '-' :: rest => (.drop, rest)
  | '+' :: rest => (.keep, rest)
  | cs => (.usual, cs)

/-- The text in front of a tag, without the blanks that the tag drops. `lineStart` tells whether the
text begins a line. -/
def trimBefore (kind : Kind) (margin : Margin) (lineStart : Bool) (text : List Char) :
    List Char :=
  match margin with
  | .drop => Text.trimRight text
  | .keep => text
  | .usual =>
    let indent := text.reverse.takeWhile (· != '\n')
    if kind != .output && indent.all Text.isBlank && (lineStart || indent.length < text.length) then
      text.take (text.length - indent.length)
    else text

/-- What follows the end of a tag that a text starts with, and whether that begins a line. -/
def closing? (kind : Kind) (cs : List Char) : Option (List Char × Bool) :=
  match kind, cs with
  | .output, '-' :: '\x7d' :: '\x7d' :: rest => some (Text.trimLeft rest, false)
  | .output, '\x7d' :: '\x7d' :: rest => some (rest, false)
  | .statement, '+' :: '%' :: '\x7d' :: rest | .comment, '+' :: '#' :: '\x7d' :: rest =>
    some (rest, false)
  | .statement, '-' :: '%' :: '\x7d' :: rest | .comment, '-' :: '#' :: '\x7d' :: rest =>
    some (Text.trimLeft rest, false)
  | .statement, '%' :: '\x7d' :: '\n' :: rest | .comment, '#' :: '\x7d' :: '\n' :: rest =>
    some (rest, true)
  | .statement, '%' :: '\x7d' :: rest | .comment, '#' :: '\x7d' :: rest => some (rest, false)
  | _, _ => none

def afterComment : List Char → Option (List Char × Bool)
  | [] => none
  | c :: rest =>
    match closing? .comment (c :: rest) with
    | some found => some found
    | none => afterComment rest

/-- The brackets that are open after a word, the innermost first. -/
def bracketsAfter (opened : List Char) : Token → Reading (List Char)
  | .mark '[' => .ok (']' :: opened)
  | .mark '(' => .ok (')' :: opened)
  | .mark c =>
    if c == ']' || c == ')' then
      match opened with
      | d :: outer => if c == d then .ok outer else .error "a bracket is not closed"
      | [] => .error "a bracket is not open"
    else .ok opened
  | _ => .ok opened

/-- The words of a tag, what follows it, and whether that begins a line. A tag does not end inside
brackets. -/
def scanTag (kind : Kind) (opened : List Char) (afterPoint : Bool) (cs : List Char) :
    Reading (List Token × List Char × Bool) :=
  match if opened.isEmpty then closing? kind cs else none with
  | some (rest, lineStart) => .ok ([], rest, lineStart)
  | none =>
    match cs with
    | [] => .error "a tag is not closed"
    | c :: rest =>
      if Text.isBlank c then scanTag kind opened false rest
      else
        match Token.next? afterPoint (c :: rest) with
        | none => .error "an unexpected character in a tag"
        | some (token, left) =>
          if _h : left.length < (c :: rest).length then do
            let opened ← bracketsAfter opened token
            let (tokens, found) ← scanTag kind opened (token == .mark '.') left
            return (token :: tokens, found)
          else .error "an empty word"
termination_by cs.length
decreasing_by
  · exact Nat.lt_succ_self _
  · assumption

/-! ## Pieces -/

inductive Piece
  | data (text : List Char)
  | output (tokens : List Token)
  | statement (tokens : List Token)
deriving DecidableEq, Repr

/-- The piece of a tag, what follows it, and whether that begins a line; a comment is no piece. -/
def scanPiece (kind : Kind) (cs : List Char) : Reading (List Piece × List Char × Bool) :=
  match kind with
  | .comment =>
    match afterComment cs with
    | some found => .ok ([], found)
    | none => .error "a comment is not closed"
  | .output => do
    let (tokens, found) ← scanTag .output [] false cs
    return ([.output tokens], found)
  | .statement => do
    let (tokens, found) ← scanTag .statement [] false cs
    return ([.statement tokens], found)

/-- The pieces of a text. -/
def scanFrom (lineStart : Bool) (cs : List Char) : Reading (List Piece) :=
  match untilTag cs with
  | (text, none) => .ok [.data text]
  | (text, some (kind, inside)) => do
    let (margin, inside) := takeMargin inside
    let (piece, rest, lineStart') ← scanPiece kind inside
    if rest.length < cs.length then
      let pieces ← scanFrom lineStart' rest
      return .data (trimBefore kind margin lineStart text) :: (piece ++ pieces)
    else throw "an empty tag"
termination_by cs.length

def Piece.scan (source : List Char) : Reading (List Piece) :=
  scanFrom true (Text.unifyNewlines source)

end Template
end ApiView
